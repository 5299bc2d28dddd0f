import LineShell.Script.Builtin.Input
import LineShell.Script.Builtin.Directory
import LineShell.Script.Signal
import LineShell.Script.Source

/-!
# Commands that steer a shell

Leaving loops, functions and the shell; running other texts; what is done about signals; processes.

Main statement: `loopsLeft_le`, by which no more loops are left than are at work.
-/

namespace LineShell

namespace Script

namespace Builtin

/-! ### Leaving -/

/-- Stopping. -/
def stop {α : Type} (s : Stop) : Deed α := throwThe Stop s

/-- Leaving the rest of the line out, with a diagnostic. -/
def abandon {α : Type} (name message : Octets) (code : Nat) : Deed α := do
  Action.complainOf name message
  stop (.abandon code)

/-- The arguments behind two hyphens in front of them, in the extended shell. -/
def withoutHyphens (args : List Octets) : Action (List Octets) := do
  match args with
  | ['-', '-'] :: rest => return if ← Action.isExtended then rest else args
  | args => return args

/-- The code that an argument asks for, if there is one. -/
def codeFor? (name : Octets) (args : List Octets) : Deed (Option Nat) := do
  match ← withoutHyphens args with
  | [] => return none
  | a :: rest => do
      if ← Action.isExtended then match Condition.number? a with
        | none => return none
        | some n => do
            if !rest.isEmpty then abandon name (octetsOf "too many arguments") 1
            else return some (n % 256).toNat
      else return some (← number name a)

/-- Whether an argument of the extended shell is no number; then this is said. -/
def refusesNumber (name : Octets) (args : List Octets) : Deed Bool := do
  match ← withoutHyphens args with
  | [] => return false
  | a :: _ => do
      if (← Action.isExtended) && (Condition.number? a).isNone then
        Action.complainOf name (a ++ octetsOf ": numeric argument required")
        return true
      else return false

/-- Ending the shell. -/
def exit : Builtin := fun _ name args => do
  if ← refusesNumber name args then stop (.finish 2)
  else
    let code := (← Action.shell).code
    stop (.finish ((← codeFor? name args).getD code))

/-- Leaving a function, or a file that is being run. -/
def leaveFunction : Builtin := fun _ name args => do
  let sh ← Action.shell
  let refused ← refusesNumber name args
  let code ← if refused then pure 2 else do pure ((← codeFor? name args).getD sh.code)
  if sh.dialect = .extended && sh.hidden.isEmpty && sh.sources = 0 then
    fail name (octetsOf "can only `return' from a function or sourced script") 2
  else stop (.back code)

/-- How many loops are left, given how many are to be left and how many are at work. -/
def loopsLeft (asked working : Nat) : Nat := min asked working

/-- No more loops are left than are at work. -/
theorem loopsLeft_le (asked working : Nat) : loopsLeft asked working ≤ working :=
  Nat.min_le_right _ _

/-- Leaving loops in the extended shell. -/
def extendedLeave (again : Bool) (name : Octets) (args : List Octets) : Deed Nat := do
  let working := (← Action.shell).loops
  if working = 0 then
    Action.complainOf name (octetsOf "only meaningful in a `for', `while', or `until' loop")
    return 0
  else match ← withoutHyphens args with
    | [] => leave 1
    | a :: rest => match Condition.number? a with
      | none => do
          Action.complainOf name (a ++ octetsOf ": numeric argument required")
          stop (.finish 128)
      | some n => do
          if !rest.isEmpty then abandon name (octetsOf "too many arguments") 1
          else if n ≤ 0 then
            Action.complainOf name (a ++ octetsOf ": loop count out of range")
            Action.setCode 1
            stop (.leave working false)
          else leave (loopsLeft n.toNat working)
where
  /-- Leaving so many loops. -/
  leave (n : Nat) : Deed Nat := do
    Action.setCode 0
    stop (.leave n again)

/-- Leaving loops, the last of them perhaps to begin its next turn. -/
def leaveLoops (again : Bool) : Builtin := fun _ name args => do
  if ← Action.isExtended then extendedLeave again name args
  else
    let working := (← Action.shell).loops
    let n ← match args with
      | [] => pure 1
      | a :: _ => number name a
    if n = 0 then fail name (octetsOf "Illegal number: 0") 2
    else if working = 0 then return 0
    else
      Action.setCode 0
      stop (.leave (loopsLeft n working) again)

/-! ### Other texts -/

/-- Running the arguments as a text. -/
def eval : Builtin := fun r name args => do
  let (_, operands) ← if ← Action.isExtended then options name "" "" args else pure ([], args)
  let text := joined operands
  Action.setCode 0
  let origin := (← Action.shell).origin
  Action.changeShell fun sh => { sh with origin := "eval", level := sh.level + 1 }
  let result ← ExceptT.lift (Action.attempt (r.runText text))
  Action.changeShell fun sh => { sh with origin := origin, level := sh.level - 1 }
  match result with
  | .ok _ => return (← Action.shell).code
  | .error s => stop s

/-- Where a file to be run is found: at its path, among the programs or, in the extended shell, in
the working directory. -/
def sourcePath (name : Octets) : Action (Option Octets) := do
  if name.contains '/' then return some name
  else if name.isEmpty then return none
  else
    let d ← Action.disk
    let path := (← Action.textOf "PATH").splitOn ':'
    let isFile (p : Octets) : Bool :=
      (Condition.nodeAt? d true p).any fun n => (Disk.bytesOf? n).isSome
    let places := path.map fun p => if p.isEmpty then name else p ++ '/' :: name
    match places.find? isFile with
    | some p => return some p
    | none => return if ← Action.isExtended then some name else none

/-- What a file that is to be run holds, or why it cannot be run. -/
def sourceText (name path : Octets) : Deed Octets := do
  match (← Action.disk).findText (String.ofList (textOf path)) with
  | .ok n => match Disk.bytesOf? n with
    | some bytes => return octetsOfBytes bytes
    | none => match n with
      | .directory _ =>
          if ← Action.isExtended then fail name (path ++ octetsOf ": is a directory") 1
          else return []
      | _ => return []
  | .error f => do
      if ← Action.isExtended then
        Action.complain (path ++ octetsOf ": " ++ octetsOf (Tool.faultText f))
        throw 1
      else
        let reason := match f with
          | .notFound => "No such file"
          | .notADirectory => "No such file"
          | f => Tool.faultText f
        fail name (octetsOf "cannot open " ++ path ++ octetsOf ": " ++ octetsOf reason) 2

/-- Running a text as a file. -/
def runSource (r : Runner) (path : Octets) (args : List Octets) (text : Octets) : Deed Nat := do
  let old ← Action.shell
  let extended := old.dialect = .extended
  let shown := String.ofList path
  Action.changeShell fun sh => { sh with
    origin := if extended then "" else shown
    speaker := if extended then path else sh.speaker
    line := 1
    sources := sh.sources + 1
    arguments := if extended && !args.isEmpty then args else sh.arguments
    code := 0 }
  let result ← ExceptT.lift (Action.attempt (r.runText text))
  Action.changeShell fun sh => { sh with
    origin := old.origin
    speaker := old.speaker
    line := old.line
    sources := old.sources
    arguments := if extended && !args.isEmpty then old.arguments else sh.arguments }
  match result with
  | .ok _ => return (← Action.shell).code
  | .error (.back code) => return code
  | .error s => stop s

/-- Running a file. -/
def source : Builtin := fun r name args => do
  let (_, operands) ← options name "" "" args
  match operands with
  | [] => do
      if ← Action.isExtended then
        Action.complainOf name (octetsOf "filename argument required")
        failUsage name
      else return 0
  | file :: rest => match ← sourcePath file with
    | some path => do runSource r path rest (← sourceText name path)
    | none => do
        if ← Action.isExtended then
          Action.complain (file ++ octetsOf ": No such file or directory")
          return 1
        else fail name (file ++ octetsOf ": not found") 2

/-! ### Signals -/

/-- What the shell does when a signal reaches it. -/
def receive (r : Runner) (n : Nat) : Action Unit := do
  let sh ← Action.shell
  match sh.traps.lookup (Signal.condition n).toList with
  | some [] => pure ()
  | some text => do
      r.runText text
      Action.setCode sh.code
  | none => if Signal.isFatal n then throw (.killed n)

/-- Sending a signal to the shell; to a copy it is sent as well as to the shell itself, which deals
with it when the copy has ended. -/
def send (r : Runner) (n : Nat) : Action Unit := do
  if (← Action.shell).isCopy then modify fun m => { m with signals := m.signals ++ [n] }
  else receive r n

/-- Dealing with the signals that copies have sent. -/
def receiveAll (r : Runner) : Action Unit := do
  if !(← Action.shell).isCopy then
    let signals := (← get).signals
    modify fun m => { m with signals := [] }
    signals.forM (receive r)

/-- What is to be done under conditions, as commands. -/
def trapsList (sh : Shell) (p : Nat → Bool) : Octets :=
  (List.range (Signal.last + 1)).flatMap fun n =>
    match sh.traps.lookup (Signal.condition n).toList with
    | none => []
    | some text =>
        if !p n then []
        else
          let (action, shown) := match sh.dialect with
            | .plain => (plainQuoted text, Signal.condition n)
            | .extended =>
                (Expand.quoted text,
                  if n = 0 || n = 32 || n = 33 then Signal.condition n
                  else "SIG" ++ Signal.condition n)
          octetsOf "trap -- " ++ action ++ ' ' :: octetsOf shown ++ ['\n']

/-- The conditions that only the extended shell knows. -/
def otherConditions : List String := ["DEBUG", "ERR", "RETURN"]

/-- The name of a condition. -/
def conditionOf? (d : Dialect) (cs : Octets) : Option Octets :=
  match Signal.read? d cs with
  | some n => some (Signal.condition n).toList
  | none =>
      let cs := cs.map Char.toUpper
      if d = .extended && otherConditions.contains (String.ofList cs) then some cs else none

/-- Saying what is to be done under conditions; nothing special if there is no action. The common
shell ends at a condition that it does not know, and the extended one goes on. -/
def setTraps (name : Octets) (action : Option Octets) : List Octets → Deed Nat
  | [] => return 0
  | c :: cs => do
      let sh ← Action.shell
      match conditionOf? sh.dialect c with
      | some key => do
          Action.changeShell fun sh => { sh with
            traps := match action with
              | some text => setIn key text sh.traps
              | none => removeFrom key sh.traps }
          setTraps name action cs
      | none =>
          if sh.dialect = .extended then do
            Action.complainOf name (c ++ octetsOf ": invalid signal specification")
            let _ ← setTraps name action cs
            return 1
          else do
            Action.put 2 (name ++ octetsOf ": " ++ c ++ octetsOf ": bad trap\n")
            return 1

/-- Saying what is to be done under conditions, or telling about it. -/
def trap : Builtin := fun _ name args => do
  let extended ← Action.isExtended
  let (os, operands) ← options name (if extended then "lp" else "") ""
    (if args.head? = some ['-'] then ['-', '-'] :: args else args)
  let sh ← Action.shell
  if has os 'l' then
    write name Signal.table
    return 0
  else if operands.isEmpty then
    write name (trapsList sh fun _ => true)
    return 0
  else if has os 'p' then
    let wanted := operands.filterMap (Signal.read? sh.dialect)
    write name (trapsList sh wanted.contains)
    return 0
  else match operands with
    | [c] =>
        if extended && (conditionOf? sh.dialect c).isNone then failUsage name
        else setTraps name none [c]
    | action :: conditions =>
        let isReset := action = ['-'] || (!action.isEmpty && action.all isAsciiDigit)
        let conditions := if action.all isAsciiDigit && isReset then action :: conditions
          else conditions
        setTraps name (if isReset then none else some action) conditions
    | [] => return 0

/-- How the common shell says that a signal is sent. -/
def plainKillUsage : Octets :=
  octetsOf ("Usage: kill [-s sigspec | -signum | -sigspec] [pid | job]... or\n" ++
    "kill -l [exitstatus]")

/-- Whether there is a process with a number. -/
def isProcess (n : Nat) : Bool := n = ofDigits Expand.processNumber || n = 0 || n = 1

/-- Sending a signal to the process of a number; whether there is one. -/
def sendTo (r : Runner) (signal process : Nat) : Action Bool := do
  if process = ofDigits Expand.processNumber then send r signal
  return isProcess process

/-- The name of a signal, or the number of the signal with a name, as the extended shell tells. -/
def translateSignal (name cs : Octets) : Deed Nat := do
  let code (n : Nat) : Nat := if 128 < n then n - 128 else n
  let d := (← Action.shell).dialect
  if !cs.isEmpty && cs.all isAsciiDigit then
    let n := code (ofDigits cs)
    if n ≤ Signal.last then
      write name (octetsOf (Signal.condition n) ++ ['\n'])
      return 0
    else fail name (cs ++ octetsOf ": invalid signal specification") 1
  else match Signal.read? d cs with
    | some n => do
        write name (Numeral.digits n ++ ['\n'])
        return 0
    | none => fail name (cs ++ octetsOf ": invalid signal specification") 1

/-- Sending signals in the common shell. -/
def plainKill : Builtin := fun r name args => do
  let direct := match args with
    | ('-' :: cs) :: rest => (Signal.read? .plain cs).map fun n => (n, rest)
    | _ => none
  let (signal, isList, operands) ← match direct with
    | some (n, rest) => pure (n, false, rest)
    | none => do
        let (os, operands) ← options name "l" "s" args
        match os.lookup 's' with
        | some s => match Signal.read? .plain s with
          | some n => pure (n, has os 'l', operands)
          | none => fail name (octetsOf "invalid signal number or name: " ++ s) 2
        | none => pure (15, has os 'l', operands)
  if isList then match operands with
    | [] => do
        write name Signal.list
        return 0
    | a :: _ => do
        let n ← number name a
        let n := if 128 < n then n - 128 else n
        if 0 < n && n ≤ Signal.last then
          write name (octetsOf (Signal.plainName n) ++ ['\n'])
          return 0
        else fail name (octetsOf "invalid signal number or exit status: " ++ a) 2
  else if operands.isEmpty then fail name plainKillUsage 2
  else
    let codes ← operands.mapM fun p => do
      match p with
      | '%' :: _ => fail name (octetsOf "No such job: " ++ p) 2
      | p => do
          let isGroup := p.head? = some '-'
          let n ← number name (if isGroup then p.drop 1 else p)
          if !isGroup && (← sendTo r signal n) then return 0
          else do
            Action.complainOf name (octetsOf "No such process\n")
            return 1
    return codes.foldl max 0

/-- What the arguments of the extended shell for sending signals say: the signal, if it is known, as
it is written, and the processes. -/
def extendedKillArguments : List Octets → Option Nat × Octets × List Octets
  | ['-', 's'] :: s :: rest => (Signal.read? .extended s, s, rest)
  | ['-', 'n'] :: s :: rest => (Signal.read? .extended s, s, rest)
  | ['-', '-'] :: rest => (some 15, [], rest)
  | ('-' :: c :: cs) :: rest =>
      if (c = 's' || c = 'n') && (Signal.read? .extended (c :: cs)).isNone then
        (Signal.read? .extended cs, cs, rest)
      else (Signal.read? .extended (c :: cs), c :: cs, rest)
  | rest => (some 15, [], rest)

/-- Sending a signal to what an argument of the extended shell names. -/
def extendedKillOne (r : Runner) (name : Octets) (signal : Nat) (p : Octets) : Deed Nat := do
  match p, Condition.number? p with
  | [], _ => fail name (octetsOf "`': not a pid or valid job spec") 1
  | '%' :: _, _ => fail name (p ++ octetsOf ": no such job") 1
  | p, none => fail name (p ++ octetsOf ": arguments must be process or job IDs") 1
  | p, some n => do
      if 0 ≤ n && (← sendTo r signal n.toNat) then return 0
      else fail name ('(' :: p ++ octetsOf ") - No such process") 1

/-- Sending signals in the extended shell. -/
def extendedKill : Builtin := fun r name args => do
  match args with
  | [] => failUsage name
  | ['-', 'l'] :: rest => listSignals name rest
  | ['-', 'L'] :: rest => listSignals name rest
  | [['-', 's']] => fail name (octetsOf "-s: option requires an argument") 1
  | [['-', 'n']] => fail name (octetsOf "-n: option requires an argument") 1
  | args => match extendedKillArguments args with
    | (_, _, []) => failUsage name
    | (none, shown, _) => fail name (shown ++ octetsOf ": invalid signal specification") 1
    | (some signal, _, ps) => do
        let ps := if ps.head? = some ['-', '-'] then ps.drop 1 else ps
        let codes ← ps.mapM fun p => outcomeOf (extendedKillOne r name signal p)
        return if codes.contains 0 then 0 else 1
where
  /-- Listing the signals, or telling about some. -/
  listSignals (name : Octets) (rest : List Octets) : Deed Nat := do
    if rest.isEmpty then
      write name Signal.table
      return 0
    else forEach (translateSignal name) rest

/-- Sending signals. -/
def kill : Builtin := fun r name args => do
  if ← Action.isExtended then extendedKill r name args else plainKill r name args

/-! ### Processes -/

/-- The outcome of the process that an argument names. -/
def waitFor (name : Octets) (children : List (Nat × Nat)) (p : Octets) : Deed Nat := do
  if p.head? = some '%' then
    failBy name (octetsOf "No such job: " ++ p) (p ++ octetsOf ": no such job") 2 127
  else match plainNumber? p with
    | none => do
        let extendedFault := octetsOf "`" ++ p ++ octetsOf "': not a pid or valid job spec"
        failBy name (octetsOf "Illegal number: " ++ p) extendedFault 2 1
    | some n => match children.lookup n with
      | some code => return code
      | none => do
          if ← Action.isExtended then
            let shown := octetsOf "pid " ++ Numeral.digits n
            fail name (shown ++ octetsOf " is not a child of this shell") 127
          else return 127

/-- Waiting for processes that were run beside others. -/
def wait : Builtin := fun _ name args => do
  let extended ← Action.isExtended
  let (os, operands) ← options name (if extended then "nf" else "") (if extended then "p" else "") args
  if has os 'n' then return 127
  else
    let children := (← Action.shell).children
    let codes ← operands.mapM fun p => outcomeOf (waitFor name children p)
    return codes.getLastD 0

/-- Telling about the processes beside others, of which none are left. -/
def jobs : Builtin := fun _ name args => do
  let extended ← Action.isExtended
  let _ ← options name (if extended then "lnprsx" else "lp") "" args
  return 0

/-- Going on with a process, which cannot be done. -/
def resume : Builtin := fun _ name _ =>
  failBy name (octetsOf "No current job") (octetsOf "no job control") 2 1

/-- The times that the shell and its processes have taken. -/
def times : Builtin := fun _ name _ => do
  let line := if ← Action.isExtended then "0m0.000s 0m0.000s\n" else "0m0.000000s 0m0.000000s\n"
  write name (octetsOf (line ++ line))
  return 0

/-- Rights as three letters. -/
def rightsText (n : Nat) : String :=
  (if n / 4 % 2 = 1 then "r" else "") ++ (if n / 2 % 2 = 1 then "w" else "") ++
    (if n % 2 = 1 then "x" else "")

/-- The rights that new files have, in words, given those that they do not have. -/
def maskText (mask : Nat) : String :=
  let having (k : Nat) : Nat := 7 - mask / k % 8
  s!"u={rightsText (having 64)},g={rightsText (having 8)},o={rightsText (having 1)}"

/-- The digits of a number to the base eight, four at least. -/
def octalText (n : Nat) : Octets :=
  let ds := Nat.toDigits 8 n
  List.replicate (4 - ds.length) '0' ++ ds

/-- The rights that a clause of letters leaves, given those that new files have. -/
def applyClause? (having : Nat) (clause : Octets) : Option Nat :=
  let who := clause.takeWhile fun c => "ugoa".toList.contains c
  let who := if who.isEmpty || who.contains 'a' then "ugo".toList else who
  match clause.dropWhile fun c => "ugoa".toList.contains c with
  | op :: rights =>
      if !"=+-".toList.contains op || !rights.all ("rwxXst".toList.contains ·) then none
      else
        let bits := (if rights.contains 'r' then 4 else 0) + (if rights.contains 'w' then 2 else 0) +
          (if rights.contains 'x' then 1 else 0)
        some (who.foldl (fun n w =>
          let shift := if w = 'u' then 6 else if w = 'g' then 3 else 0
          let field := bits <<< shift
          let kept := n &&& (511 - (7 <<< shift))
          if op = '=' then kept ||| field
          else if op = '+' then n ||| field
          else n &&& (511 - field)) having)
  | [] => none

/-- The rights that new files do not have, as an argument says. -/
def readMask (name cs : Octets) (mask : Nat) : Deed Nat := do
  let extended ← Action.isExtended
  if cs.head?.any isAsciiDigit then
    if cs.all isOctal then
      let n := ofBase 8 cs
      if 511 < n && extended then fail name (cs ++ octetsOf ": octal number out of range") 1
      else return n % 512
    else
      let extendedFault := cs ++ octetsOf ": octal number out of range"
      failBy name (octetsOf "Illegal number: " ++ cs) extendedFault 2 1
  else
    match (cs.splitOn ',').foldlM applyClause? (511 - mask) with
    | some having => return 511 - having
    | none => do
        let near := (cs.dropWhile fun c => "ugoa".toList.contains c).take 1
        let extendedFault := octetsOf "`" ++ near ++ octetsOf "': invalid symbolic mode operator"
        failBy name (octetsOf "Illegal mode: " ++ cs) extendedFault 2 1

/-- Saying which rights new files do not have, or telling about it. -/
def umask : Builtin := fun _ name args => do
  let (os, operands) ← options name (if ← Action.isExtended then "Sp" else "S") "" args
  let mask := (← Action.shell).mask
  match operands with
  | [] => do
      let text := if has os 'S' then octetsOf (maskText mask) else octalText mask
      let shown := if has os 'p' then octetsOf "umask " ++ text else text
      write name (shown ++ ['\n'])
      return 0
  | a :: _ => do
      let mask ← readMask name a mask
      Action.changeShell fun sh => { sh with mask := mask }
      return 0

/-- Telling about bounds; there are hardly any. -/
def ulimit : Builtin := fun _ name args => do
  let letters := if ← Action.isExtended then "SHacdefilmnpqrstuvx" else "SHtfdscmlpnvwra"
  let (os, operands) ← options name letters "" args
  if operands.isEmpty then
    write name (octetsOf (if has os 'c' then "0\n" else "unlimited\n"))
  return 0

/-! ### What commands are -/

/-- The commands of the common shell. -/
def plainNames : List String :=
  specialNames ++ ["[", "alias", "bg", "cd", "chdir", "command", "echo", "false", "fg", "getopts",
    "hash", "jobs", "kill", "local", "printf", "pwd", "read", "test", "true", "type", "ulimit",
    "umask", "unalias", "wait"]

/-- The commands of the extended shell. -/
def extendedNames : List String :=
  specialNames ++ ["[", "alias", "bg", "builtin", "cd", "command", "declare", "echo", "false", "fg",
    "getopts", "hash", "jobs", "kill", "let", "local", "mapfile", "printf", "pwd", "read",
    "readarray", "shopt", "source", "test", "true", "type", "typeset", "ulimit", "umask", "unalias",
    "wait"]

/-- Whether a shell has a command of its own with a name. -/
def isBuiltin (d : Dialect) (name : Octets) : Bool :=
  (match d with
    | .plain => plainNames
    | .extended => extendedNames).contains (String.ofList name)

/-- What a name stands for. -/
inductive Kind where
  /-- A word of the language. -/
  | keyword
  /-- A function. -/
  | function
  /-- A command of the shell. -/
  | builtin
  /-- A program. -/
  | file (path : Octets)

/-- The words of the language. -/
def keywords (d : Dialect) : List String :=
  d.reservedWords ++ (if d = .extended then ["select", "coproc"] else [])

/-- Everything that a name stands for, that which is run first. -/
def kindsOf (name : Octets) : Action (List Kind) := do
  let sh ← Action.shell
  let path ← Action.textOf "PATH"
  -- the common shell does not look at what a path leads to
  let isPath := sh.dialect = .plain && name.contains '/'
  let file := match Process.lookUp (← Action.disk) path name with
    | .program _ p => [Kind.file p]
    | .notProgram _ => if isPath then [Kind.file name] else []
    | .nothing _ => []
  return (if (keywords sh.dialect).contains (String.ofList name) then [.keyword] else []) ++
    (if sh.functions.any fun f => f.1 == name then [.function] else []) ++
    (if isBuiltin sh.dialect name then [.builtin] else []) ++ file

/-- What a name stands for, in words. -/
def describe (d : Dialect) (name : Octets) (k : Kind) : Octets :=
  let what := match k with
    | .keyword => octetsOf "a shell keyword"
    | .function => octetsOf (if d = .plain then "a shell function" else "a function")
    | .builtin =>
        if d = .plain && specialNames.contains (String.ofList name) then
          octetsOf "a special shell builtin"
        else octetsOf "a shell builtin"
    | .file path => path
  name ++ octetsOf " is " ++ what ++ ['\n']

/-- What a name stands for, in a word. -/
def kindWord : Kind → String
  | .keyword => "keyword"
  | .function => "function"
  | .builtin => "builtin"
  | .file _ => "file"

/-- Telling what a name stands for, in words. -/
def describeName (command name : Octets) : Deed Nat := do
  let d := (← Action.shell).dialect
  match (← kindsOf name).head? with
  | some k => do
      write command (describe d name k)
      return 0
  | none =>
      if d = .extended then fail command (name ++ octetsOf ": not found") 1
      else do
        write command (name ++ octetsOf ": not found\n")
        return 127

/-- The path of a program, if a name stands for one. -/
def pathOf? : Kind → Option Octets
  | .file path => some path
  | _ => none

/-- Telling what a name of the extended shell stands for, as options ask. -/
def describeWith (command : Octets) (os : List (Char × Octets)) (name : Octets) : Deed Nat := do
  let kinds ← kindsOf name
  let kinds := if has os 'f' then kinds.filter (fun | .function => false | _ => true) else kinds
  let asked := if has os 'P' then kinds.filter fun k => (pathOf? k).isSome else kinds
  let chosen := if has os 'a' then asked else asked.take 1
  if chosen.isEmpty then
    if has os 't' || has os 'p' || has os 'P' then return 1
    else fail command (name ++ octetsOf ": not found") 1
  else
    let text := if has os 't' then chosen.flatMap fun k => octetsOf (kindWord k) ++ ['\n']
      else if has os 'p' || has os 'P' then (chosen.filterMap pathOf?).flatMap (· ++ ['\n'])
      else chosen.flatMap (describe .extended name)
    write command text
    return 0

/-- Telling what names stand for. -/
def type : Builtin := fun _ name args => do
  if ← Action.isExtended then
    let (os, operands) ← options name "afptP" "" args
    forEach (describeWith name os) operands
  else
    forEach (describeName name) args

/-- What is run under a name, in a word. -/
def shortName (name : Octets) : Kind → Octets
  | .file path => path
  | _ => name

/-- Telling briefly what is run under names; the common shell looks at the first one only. -/
def locate (names : List Octets) : Deed Nat := do
  if ← Action.isExtended then
    let found ← names.mapM fun n => do
      match (← kindsOf n).head? with
      | some k => do
          write n (shortName n k ++ ['\n'])
          return true
      | none => return false
    return if found.any id || names.isEmpty then 0 else 1
  else match names with
    | [] => return 0
    | n :: _ => match (← kindsOf n).head? with
      | some k => do
          write n (shortName n k ++ ['\n'])
          return 0
      | none => return 127

/-- Looking for programs beforehand. -/
def hash : Builtin := fun _ name args => do
  let extended ← Action.isExtended
  let (os, operands) ← options name (if extended then "lrdt" else "rv") (if extended then "p" else "")
    args
  if operands.isEmpty then
    if extended && os.isEmpty then write name (octetsOf "hash: hash table empty\n")
    return 0
  else forEach (fun n => do
    match (← kindsOf n).head? with
    | some _ => return 0
    | none => do
        Action.complainOf name (n ++ octetsOf ": not found")
        return 1) operands

end Builtin

end Script

end LineShell
