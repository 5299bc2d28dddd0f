import LineShell.Script.Builtin.Basic

/-!
# Settings of a shell

What a shell is told to do or not to do, by letters or by names; and its arguments.

Main statement: `setFrom_nil`, by which nothing is switched where there is nothing to read.
-/

namespace LineShell

namespace Script

namespace Builtin

/-! ### Switching -/

/-- Switching a setting. -/
def switchSetting (on : Bool) (s : Setting) : Action Unit :=
  Action.changeShell fun sh => match s.letter with
    | some c => { sh with flags := Setting.switched on c sh.flags }
    | none => { sh with settings := Setting.switched on s.name sh.settings }

/-- Whether a setting is on. -/
def isOn (sh : Shell) (s : Setting) : Bool := Setting.isOn sh.flags sh.settings s

/-! ### Variables as they are listed -/

/-- A value between quotation marks of the common shell. -/
def plainQuoted (cs : Octets) : Octets :=
  '\'' :: cs.flatMap (fun c => if c = '\'' then "'\"'\"'".toList else [c]) ++ ['\'']

/-- A value between double quotation marks, unless it has to be escaped. -/
def doubleQuoted (cs : Octets) : Octets :=
  if !cs.all isPrintable then dollarQuoted cs
  else '"' :: cs.flatMap (fun c => if "\"\\$`".toList.contains c then ['\\', c] else [c]) ++ ['"']

/-- A value that is quoted if it has to be. -/
def quotedIfNeeded (cs : Octets) : Octets :=
  if !cs.isEmpty && cs.all Expand.isPlainChar then cs else Expand.quoted cs

/-- Variables in the order of their names. -/
def sortedVariables (vs : Variables) : Variables := vs.mergeSort fun a b => octetsLe a.1 b.1

/-- The variables with their values. -/
def variablesList (sh : Shell) : Octets :=
  (sortedVariables sh.vars).flatMap fun (name, v) => match v.value.bind Action.textOfValue with
    | none => []
    | some cs => match sh.dialect with
      | .plain => name ++ '=' :: plainQuoted cs ++ ['\n']
      | .extended =>
          name ++ '=' :: (if cs.isEmpty then [] else quotedIfNeeded cs) ++ ['\n']

/-! ### Commands -/

/-- Switching settings by the letters of an argument. -/
def switchLetters (name : Octets) (on : Bool) : Octets → Deed Unit
  | [] => pure ()
  | c :: cs => do
      let sh ← Action.shell
      match Setting.lettered? sh.dialect c with
      | some s => do
          switchSetting on s
          switchLetters name on cs
      | none =>
          if sh.dialect = .extended then do
            Action.complainOf name ([Invocation.sign on, c] ++ octetsOf ": invalid option")
            failUsage name
          else failOption name c

/-- Switching a setting by its name. -/
def switchNamed (name : Octets) (on : Bool) (setting : Octets) : Deed Unit := do
  let sh ← Action.shell
  match Setting.named? sh.dialect (String.ofList setting) with
  | some s => switchSetting on s
  | none =>
      let plain := octetsOf (if on then "Illegal option -o " else "Illegal option +o ") ++ setting
      failBy name plain (setting ++ octetsOf ": invalid option name") 2 2

/-- Setting the arguments of the shell. -/
def setArguments (args : List Octets) : Action Unit :=
  Action.changeShell fun sh => { sh with arguments := args }

/-- Switching settings and setting the arguments, as arguments of the command say. The number bounds
the steps. -/
def setFrom (name : Octets) : Nat → List Octets → Deed Nat
  | 0, _ => return 0
  | _, [] => return 0
  | n + 1, a :: rest => match a with
    | ['-', '-'] => do
        setArguments rest
        return 0
    | ['-'] => do
        switchSetting false ⟨"xtrace", some 'x'⟩
        switchSetting false ⟨"verbose", some 'v'⟩
        if !rest.isEmpty then setArguments rest
        return 0
    | ['-', 'o'] => match rest with
      | [] => do
          let sh ← Action.shell
          write name (Setting.list sh.dialect (isOn sh))
          return 0
      | s :: rest => do
          switchNamed name true s
          setFrom name n rest
    | ['+', 'o'] => match rest with
      | [] => do
          let sh ← Action.shell
          write name (Setting.commands sh.dialect (isOn sh))
          return 0
      | s :: rest => do
          switchNamed name false s
          setFrom name n rest
    | '-' :: cs =>
        if cs.getLast? = some 'o' then do
          switchLetters name true cs.dropLast
          setFrom name n (['-', 'o'] :: rest)
        else do
          switchLetters name true cs
          setFrom name n rest
    | '+' :: cs => do
        switchLetters name false cs
        setFrom name n rest
    | a => do
        setArguments (a :: rest)
        return 0

/-- Nothing is switched where there is nothing to read. -/
theorem setFrom_nil (name : Octets) (n : Nat) : setFrom name n [] = pure 0 := by cases n <;> rfl

/-- Switching settings, setting the arguments, or listing the variables. -/
def set : Builtin := fun _ name args => do
  if args.isEmpty then
    write name (variablesList (← Action.shell))
    return 0
  else setFrom name (2 * args.length + 2) args

/-- How many arguments are to be left out, as an argument of the extended shell says. -/
def extendedCount (name a : Octets) : Deed Nat := do
  match Condition.number? a with
  | some n =>
      if n < 0 then fail name (a ++ octetsOf ": shift count out of range") 1 else return n.toNat
  | none => fail name (a ++ octetsOf ": numeric argument required") 1

/-- How many arguments are to be left out. -/
def shiftCount (name : Octets) (args : List Octets) : Deed Nat := do
  match args with
  | [] => return 1
  | a :: _ => if ← Action.isExtended then extendedCount name a else number name a

/-- Leaving out arguments. -/
def shift : Builtin := fun _ name args => do
  let count := (← Action.shell).arguments.length
  let n ← shiftCount name args
  if n ≤ count then
    Action.changeShell fun sh => { sh with arguments := sh.arguments.drop n }
    return 0
  else if ← Action.isExtended then return 1
  else fail name (octetsOf "can't shift that many") 2

/-- Switching special behaviour, or telling about it. -/
def behave (os : List (Char × Octets)) (name n : Octets) : Deed Nat := do
  let s := String.ofList n
  if !Setting.behaviours.contains s then
    Action.complainOf name (n ++ octetsOf ": invalid shell option name")
    return 1
  else if has os 's' || has os 'u' then
    Action.changeShell fun sh =>
      { sh with settings := Setting.switched (has os 's') s sh.settings }
    return 0
  else
    let on := (← Action.shell).settings.contains s
    if !has os 'q' then
      write name ((if has os 'p' then Setting.behaviourCommand else Setting.toldLine) s on)
    return if on then 0 else 1

/-- Switching special behaviour, or telling about it; all of it, if no names are given. -/
def shopt : Builtin := fun _ name args => do
  let (os, names) ← options name "psuqo" "" args
  if names.isEmpty then
    let sh ← Action.shell
    let asked (on : Bool) : Bool := (!has os 's' || on) && (!has os 'u' || !on)
    let shown := if has os 'p' then Setting.behaviourCommand else Setting.toldLine
    write name (Setting.behaviours.flatMap fun s =>
      let on := sh.settings.contains s
      if asked on then shown s on else [])
    return 0
  else
    let codes ← names.mapM (behave os name)
    return codes.foldl max 0

end Builtin

end Script

end LineShell
