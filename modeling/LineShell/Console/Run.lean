import LineShell.Console.Level
import LineShell.Session.Basic

/-!
# The console

A session at a terminal: a greeting, then a prompt for each line, until a line says to leave, the
input ends, or an interruption comes. What the session writes goes to the two streams of the
terminal, each text on lines of its own; notes are shown as diagnostics if the level of the log is
low enough. A prompt with surrogates in it cannot be written, and the console ends before it waits for
a line.

The console is a machine that takes one input after another (`Console.step`), and `Console.run`
drives it to its end.

Main statements: `run_nil` (the end of the input is an interruption), `run_of_unwritable` (a prompt that
cannot be written) and `step_line_of_leaves` (a line that says to leave is not run).
-/

namespace LineShell

/-- A console at work. -/
structure Console where
  /-- The session. -/
  session : Session
  /-- Whether notes are shown. -/
  showsNotes : Bool

namespace Console

/-- What a console can rely on. -/
structure Surroundings where
  /-- The world outside. -/
  host : Host
  /-- The time that is put before notes. -/
  stamp : String
  /-- The level of the log that the environment asks for. -/
  level : Option WideText
  /-- How many containers may be open in the settings file. -/
  nesting : Nat

/-- What comes in while the console waits for a line. -/
inductive Input where
  /-- A line. -/
  | line (text : String)
  /-- An interruption from the keyboard. -/
  | interrupt
  /-- An order to terminate. -/
  | terminate
deriving DecidableEq, Repr

/-- What goes out. -/
inductive Effect where
  /-- A text is written to the output. -/
  | out (text : String)
  /-- A text is written to the diagnostics. -/
  | err (text : String)
  /-- A command line is handed to a shell. -/
  | call (commandLine : String) (shell : Option WideText)
deriving DecidableEq, Repr

/-- How a console ends. -/
inductive Ending where
  /-- The user left. -/
  | left
  /-- It was told to terminate. -/
  | terminated
  /-- A fault ended it. -/
  | fault (e : Fault)
  /-- The prompt could not be written. -/
  | unwritable (prompt : WideText)
deriving DecidableEq, Repr

/-- What is said about an ending that is none of the user's. -/
def Ending.message? : Ending → Option String
  | left => none
  | terminated => none
  | fault e => some e.message
  | unwritable prompt => some prompt.encodingMessage

/-- The exit code of an ending. -/
def Ending.exitCode (e : Ending) : Nat := if e.message?.isNone then 0 else 1

/-- A text as a line. -/
def lineOf (text : String) : String := text ++ "\n"

/-- A note as it is shown. -/
def noteLine (stamp : String) (n : Note) : String :=
  lineOf s!"{stamp} - {n.source} - DEBUG - {n.message}"

/-- What goes out for an event of the session. -/
def effectsOf (stamp : String) (showsNotes : Bool) : Event → List Effect
  | .out text => [.out (lineOf text)]
  | .err text => [.err (lineOf text)]
  | .call commandLine shell => [.call commandLine shell]
  | .note n => if showsNotes then [.err (noteLine stamp n)] else []

/-! ### Starting -/

/-- Why a console does not start. -/
inductive StartError where
  /-- There are no settings. -/
  | settings (e : Settings.Error)
  /-- There is no level for the log. -/
  | level (e : Level.Error)
deriving DecidableEq, Repr

/-- The greeting. -/
def greeting (cs : Commands) : String :=
  "Welcome to FakeShell!\n" ++
    "Available commands: " ++ ", ".intercalate (cs.map Prod.fst) ++ "\n" ++
    "Type \"help\" for more information\n" ++
    "Type \"exit\" to quit\n\n"

/-- The console for a session that has started. -/
def ofSession (w : Surroundings) (s : Session) : Except StartError Console :=
  match Level.choose w.level s.settings.logLevel with
  | .ok n => .ok ⟨s, Level.showsNotes n⟩
  | .error e => .error (.level e)

/-- A console that has started, or why it has not, with what went out. -/
def start (w : Surroundings) (disk : Disk) : List Effect × Except StartError Console :=
  let started := Session.start w.nesting disk (some Settings.defaultPath)
  let warnings := started.warnings.map fun warning => Effect.err (lineOf warning.message.escaped)
  match started.result with
  | .error e => (warnings, .error (.settings e))
  | .ok s => match ofSession w s with
    | .error e => (warnings, .error e)
    | .ok c => (warnings ++ [.out (greeting s.commands)], .ok c)

/-! ### Working -/

/-- The words that say to leave. -/
def exitWords : List (List Char) := ["exit".toList, "quit".toList]

/-- Whether a line says to leave, in any case and with blanks around it. -/
def leaves (text : String) : Bool :=
  exitWords.contains ((Chars.trim text.toList).map Char.toLower)

/-- How the console stands after a line that the session has run. -/
def afterLine (c : Console) : Outcome Bool → List Effect × (Console ⊕ Ending)
  | ⟨.ok _, s, _⟩ => ([], .inl { c with session := c.session.withStore s })
  | ⟨.error e, _, _⟩ =>
      if e.isInterrupt then ([.out "\n"], .inr .left) else ([], .inr (.fault e))

/-- What goes out for an input, and the console that goes on or how it ends. -/
def step (w : Surroundings) (c : Console) : Input → List Effect × (Console ⊕ Ending)
  | .interrupt => ([.out "\n"], .inr .left)
  | .terminate => ([], .inr .terminated)
  | .line text =>
      if leaves text then ([], .inr .left)
      else
        let o := c.session.run w.host text
        let (effects, next) := c.afterLine o
        (o.events.flatMap (effectsOf w.stamp c.showsNotes) ++ effects, next)

/-- The prompt, if it can be written. -/
def prompt? (c : Console) : Option String := c.session.settings.prompt.toString?

/-- All that goes out for the inputs, and how the console ends. The end of the input is an
interruption. -/
def run (w : Surroundings) (c : Console) (is : List Input) : List Effect × Ending :=
  match c.prompt? with
  | none => ([], .unwritable c.session.settings.prompt)
  | some prompt => match is with
    | [] => ([.out prompt, .out "\n"], .left)
    | i :: is => match step w c i with
      | (effects, .inr e) => (.out prompt :: effects, e)
      | (effects, .inl d) =>
          let (rest, e) := run w d is
          (.out prompt :: effects ++ rest, e)

/-- The end of the input is an interruption. -/
theorem run_nil (w : Surroundings) (c : Console) : run w c [] = run w c [.interrupt] := by
  rw [run, run]
  rfl

/-- A prompt that cannot be written ends the console, whatever would come in. -/
theorem run_of_unwritable (w : Surroundings) {c : Console} (h : c.prompt? = none) (is : List Input) :
    run w c is = ([], .unwritable c.session.settings.prompt) := by
  rw [run, h]

/-- A line that says to leave is not run. -/
theorem step_line_of_leaves {w : Surroundings} {c : Console} {text : String}
    (h : leaves text = true) : step w c (.line text) = ([], .inr .left) := by
  simp [step, h]

end Console

end LineShell
