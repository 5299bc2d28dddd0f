import LineShell.Script.Builtin.Basic

/-!
# Commands that write and test

The shell's own commands that write texts and test conditions, and those that do nothing.
-/

namespace LineShell

namespace Script

namespace Builtin

/-- Doing nothing. -/
def succeed : Builtin := fun _ _ _ => return 0

/-- Failing without a word. -/
def failQuietly : Builtin := fun _ _ _ => return 1

/-- Writing the arguments. -/
def echo : Builtin := fun _ name args => do
  if ← Action.isExtended then
    write name (Tool.echoText .extendedText (← Action.hasSetting "xpg_echo") args)
  else write name (Tool.plainEchoText args)
  return 0

/-- Saying what is wrong with a format and its arguments. -/
def sayFormatFaults (name : Octets) (faults : List Octets) : Deed Unit :=
  faults.forM fun m => Action.complainOf name m

/-- Writing the arguments by a format, in the common shell. -/
def plainPrintf : Builtin := fun _ name args => do
  let (_, args) ← options name "" "" args
  match args with
  | [] => fail name (octetsOf "usage: printf format [arg ...]") 2
  | fmt :: args => do
      let f := Format.apply .plain fmt args
      write name f.octets
      sayFormatFaults name f.faults
      return f.code

/-- Writing the arguments by a format, or setting a variable to them. -/
def extendedPrintf : Builtin := fun _ name args => do
  let (os, args) ← options name "" "v" args
  match args with
  | [] => failUsage name
  | fmt :: args => do
      let f := Format.apply .extended fmt args
      match os.lookup 'v' with
      | some x => do
          sayFormatFaults name f.faults
          if isName x then Action.setText x f.octets
          else fail name (octetsOf "`" ++ x ++ octetsOf "': not a valid identifier") 2
      | none => do
          write name f.octets
          sayFormatFaults name f.faults
      return f.code

/-- Writing the arguments by a format. -/
def printf : Builtin := fun r name args => do
  if ← Action.isExtended then extendedPrintf r name args else plainPrintf r name args

/-- What a test of one operand comes to. -/
def ask (sh : Shell) (d : Disk) : Condition.Inquiry := fun letter x =>
  match letter with
  | 'n' => !x.isEmpty
  | 'z' => x.isEmpty
  | 'v' =>
      let v := (sh.vars.lookup (x.takeWhile (· != '['))).bind Variable.value
      v.isSome
  | 'o' => (Setting.named? sh.dialect (String.ofList x)).any (Setting.isOn sh.flags sh.settings)
  | letter => Condition.testFile d letter x

/-- Testing a condition, perhaps between brackets. -/
def test (bracket : Bool) : Builtin := fun _ name args => do
  if bracket && args.getLast? ≠ some [']'] then
    failBy name (octetsOf "missing ]") (octetsOf "missing `]'") 2 2
  else do
    let args := if bracket then args.dropLast else args
    let d ← Action.disk
    let sh ← Action.shell
    let result ← if ← Action.isExtended then
        pure (Condition.evaluate ⟨.extended, d, ask sh d⟩ args)
      else pure (Condition.Plain.evaluate d (ask sh d) args)
    match result with
    | .ok v => return if v then 0 else 1
    | .error e => fail name e 2

/-- Writing the path of the working directory. -/
def pwd : Builtin := fun _ name args => do
  let (os, _) ← options name "LP" "" args
  let path ← if has os 'P' then pure (Tool.absolute (← Action.disk).working)
    else Action.textOf "PWD"
  write name (path ++ ['\n'])
  return 0

end Builtin

end Script

end LineShell
