import LineShell.Console.Run
import LineShell.Script.Run
import Std.Time.DateTime.Timestamp

/-!
# The command line

The console at the standard streams. Its disk is that of a system with nothing in the working
directory but the settings file, which is read from there; command lines that are no commands of the
shell run as scripts on that disk.
The level of the log is taken from the environment.
-/

namespace LineShell

namespace Main

/-- Where the environment asks for a level of the log. -/
def levelVariable : String := "FAKESHELL_LOG_LEVEL"

/-- The last two digits of a number. -/
def twoDigits (n : Nat) : String :=
  String.ofList [Nat.digitChar (n / 10 % 10), Nat.digitChar (n % 10)]

/-- The time of day that is so many seconds after a midnight. -/
def timeOfDay (seconds : Nat) : String :=
  s!"{twoDigits (seconds / 3600 % 24)}:{twoDigits (seconds / 60 % 60)}:{twoDigits (seconds % 60)}"

/-- The time of day now. -/
def now : IO String := do
  let t ← Std.Time.Timestamp.now
  return timeOfDay t.toSecondsSinceUnixEpoch.val.toNat

/-- The disk with the settings file of the working directory, if there is one. -/
def readDisk : IO Disk := do
  let path := Settings.defaultPath
  try
    let bytes ← IO.FS.readBinFile path
    return Disk.system.put (Path.ofString path) (.file bytes.toList)
  catch _ => return Disk.system

/-- The characters that a machine of common size has room for. -/
def commonRoom : Nat := 2 ^ 30

/-- How deep directories, and the containers of a text, may nest where calls may nest a thousand deep. -/
def commonDepth : Nat := 985

/-- The world outside at a time. -/
def hostAt (time : String) : Host where
  run := Script.runUnder
  clock := time
  room := commonRoom
  depth := commonDepth

/-- What a console can rely on at a time. -/
def surroundingsAt (level : Option String) (time : String) : Console.Surroundings where
  host := hostAt time
  stamp := time
  level := level.map .ofString
  nesting := commonDepth

/-- Letting an effect happen; a command line that was handed on has already run. -/
def happen : Console.Effect → IO Unit
  | .out text => IO.print text
  | .err text => IO.eprint text
  | .call _ _ => pure ()

/-- Letting effects happen one after another. -/
def happenAll (es : List Console.Effect) : IO Unit := do
  es.forM happen
  (← IO.getStdout).flush

/-- A line of the input without its end. -/
def withoutLineEnd (line : String) : String :=
  String.ofList (match line.toList.getLast? with
    | some '\n' => line.toList.dropLast
    | _ => line.toList)

/-- The next input; the end of the input is an interruption. -/
def nextInput : IO Console.Input := do
  let line ← (← IO.getStdin).getLine
  return if line.isEmpty then .interrupt else .line (withoutLineEnd line)

/-- The exit code of an ending, about which something may have to be said. -/
def exitCode (e : Console.Ending) : IO UInt32 := do
  e.message?.forM IO.eprintln
  return e.exitCode.toUInt32

/-- The console driven by the standard input. -/
partial def drive (level : Option String) (c : Console) : IO UInt32 := do
  match c.prompt? with
  | none => exitCode (.unwritable c.session.settings.prompt)
  | some prompt => do
      happenAll [.out prompt]
      let i ← nextInput
      match Console.step (surroundingsAt level (← now)) c i with
      | (effects, .inl c) => do
          happenAll effects
          drive level c
      | (effects, .inr ending) => do
          happenAll effects
          exitCode ending

/-- What is said when a console does not start. -/
def startMessage : Console.StartError → String
  | .settings e => e.message
  | .level e => e.message

end Main

end LineShell

open LineShell in
/-- The console at the standard streams. -/
def main : IO UInt32 := do
  let level ← IO.getEnv Main.levelVariable
  match Console.start (Main.surroundingsAt level (← Main.now)) (← Main.readDisk) with
  | (effects, .error e) => do
      Main.happenAll effects
      IO.eprintln (Main.startMessage e)
      return 1
  | (effects, .ok c) => do
      Main.happenAll effects
      Main.drive level c
