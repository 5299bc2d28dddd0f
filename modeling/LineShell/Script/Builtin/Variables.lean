import LineShell.Script.Builtin.Settings

/-!
# Commands that declare variables

Commands to which a word that sets a variable may be given as an argument: they make variables seen by
programs, constant, or local to a function. And those that remove variables and evaluate expressions.

Main statement: `hide_idem`, by which a variable that a function has hidden is not hidden again.
-/

namespace LineShell

namespace Script

/-- An argument of a command that declares variables. -/
inductive Declared where
  /-- A name, or an option. -/
  | name (cs : Octets)
  /-- What sets a variable. -/
  | setting (a : Assignment)

namespace Declared

/-- What a field declares. -/
def ofField (d : Dialect) (cs : Octets) : Declared :=
  match Assignment.ofWord? d [.text false cs] with
  | some a => .setting { a with value := [.text true (cs.drop (cs.idxOf '=' + 1))] }
  | none => .name cs

/-- What a word declares: where it sets a variable, what it is set to is not cut. -/
def ofWord (r : Runner) (d : Dialect) (w : Word) : Action (List Declared) := do
  match Assignment.ofWord? d w with
  | some a => match a.value with
    | [.elements _] => return [.setting a]
    | _ => do return [.setting { a with value := [.text true (← Assignment.text r a)] }]
  | none => do return (← Expand.fieldsOfWord r w).map (ofField d)

/-- The name that is declared. -/
def key : Declared → Octets
  | name cs => cs
  | setting a => a.name

/-- What is declared, as it is shown. -/
def shown : Declared → Octets
  | name cs => cs
  | setting a => match a.value with
    | [.text _ cs] => a.name ++ '=' :: cs
    | _ => a.name ++ ['=']

end Declared

/-- A command that declares variables. -/
abbrev Declaration := Runner → Octets → List Declared → Deed Nat

namespace Builtin

/-! ### Lists of variables -/

/-- The variables of a kind as commands of the common shell. -/
def plainList (sh : Shell) (command : String) (p : Variable → Bool) : Octets :=
  (sortedVariables sh.vars).flatMap fun (name, v) =>
    if p v then
      octetsOf command ++ ' ' :: name ++
        (match v.value.bind Action.textOfValue with
          | some cs => '=' :: plainQuoted cs
          | none => []) ++ ['\n']
    else []

/-- The letters for what a variable is. -/
def lettersOf (v : Variable) : Octets :=
  let cs := (match v.value with
    | some (.list _) => ['a']
    | some (.table _) => ['A']
    | _ => []) ++ (if v.whole then ['i'] else []) ++ (if v.constant then ['r'] else []) ++
    (if v.exported then ['x'] else []) ++
    (match v.letters with
      | some true => ['u']
      | some false => ['l']
      | none => [])
  if cs.isEmpty then ['-'] else cs

/-- A value as it is written in a command of the extended shell. -/
def declaredValue (v : Value) : Octets :=
  match v with
  | .text cs => '=' :: doubleQuoted cs
  | .list [] => []
  | .list entries =>
      let shown := entries.map fun (n, cs) =>
        '[' :: Numeral.digits n ++ octetsOf "]=" ++ doubleQuoted cs
      octetsOf "=(" ++ joined shown ++ [')']
  | .table [] => []
  | .table entries =>
      let key (cs : Octets) : Octets :=
        if !cs.isEmpty && cs.all Expand.isPlainChar then cs else doubleQuoted cs
      octetsOf "=(" ++ (entries.flatMap fun (k, cs) =>
        '[' :: key k ++ octetsOf "]=" ++ doubleQuoted cs ++ [' ']) ++ [')']

/-- A variable as a command of the extended shell. -/
def declarationOf (name : Octets) (v : Variable) : Octets :=
  octetsOf "declare -" ++ lettersOf v ++ ' ' :: name ++
    ((v.value.map declaredValue).getD []) ++ ['\n']

/-- The variables of a kind as commands of the extended shell. -/
def extendedList (sh : Shell) (p : Variable → Bool) : Octets :=
  (sortedVariables sh.vars).flatMap fun (name, v) =>
    if p v then declarationOf name v else []

/-! ### Declaring -/

/-- The variable that a name had before a function hid it, in the latest of the lists. -/
def hide (name : Octets) (old : Option Variable) :
    List (List (Octets × Option Variable)) → List (List (Octets × Option Variable))
  | [] => []
  | top :: below =>
      (if top.any fun e => e.1 == name then top else (name, old) :: top) :: below

/-- A variable that a function has hidden is not hidden again. -/
theorem hide_idem (name : Octets) (a b : Option Variable)
    (l : List (List (Octets × Option Variable))) : hide name b (hide name a l) = hide name a l := by
  cases l with
  | nil => rfl
  | cons top below =>
    by_cases h : top.any fun e => e.1 == name
    · simp [hide, h]
    · simp [hide, h]

/-- Saying that a name is none. -/
def refuseName {α : Type} (command : Octets) (d : Declared) : Deed α := do
  let plain := d.key.takeWhile (· != '=') ++ octetsOf ": bad variable name"
  let extended := octetsOf "`" ++ d.shown ++ octetsOf "': not a valid identifier"
  failBy command plain extended 2 1

/-- Setting a variable, or only naming it; in the extended shell a constant one is left. -/
def declareOne (r : Runner) (command : Octets) (named : Bool) (d : Declared)
    (change : Variable → Variable) : Deed Nat := do
  if !isName d.key then refuseName command d
  else
    let v := (← Action.variableNamed? d.key).getD Assignment.unset
    match d with
    | .name cs => do
        Action.putVariable cs (change v)
        return 0
    | .setting a => do
        if v.constant && (← Action.isExtended) then
          let message := a.name ++ octetsOf ": readonly variable"
          if named then Action.complainOf command message else Action.complain message
          return 1
        else do
          Assignment.perform r a
          let w := (← Action.variableNamed? a.name).getD Assignment.unset
          Action.putVariable a.name (change w)
          return 0

/-- What a deed comes to; in the extended shell failing is an outcome like any other. -/
def outcomeOf (a : Deed Nat) : Deed Nat := do
  let result : Except Nat Nat ← ExceptT.lift a.run
  match result with
  | .ok n => return n
  | .error n => if ← Action.isExtended then return n else throw n

/-- Doing something with each of some things; one that fails in the extended shell does not keep the
others from being done. -/
def forEach {α : Type} (f : α → Deed Nat) (l : List α) : Deed Nat := do
  let codes ← l.mapM fun a => outcomeOf (f a)
  return codes.foldl max 0

/-- The options in front of declarations: those that are switched on, and those that are switched
off. -/
def declaredOptions (name : Octets) (known : String) :
    List Declared → Deed (List Char × List Char × List Declared)
  | .name ['-', '-'] :: rest => return ([], [], rest)
  | .name ('-' :: c :: cs) :: rest => do
      checkLetters (c :: cs)
      let (on, off, operands) ← declaredOptions name known rest
      return (c :: cs ++ on, off, operands)
  | .name ('+' :: c :: cs) :: rest => do
      checkLetters (c :: cs)
      let (on, off, operands) ← declaredOptions name known rest
      return (on, c :: cs ++ off, operands)
  | rest => return ([], [], rest)
where
  /-- Failing because of a letter that is not known. -/
  checkLetters (cs : Octets) : Deed Unit := do
    match cs.find? fun c => !known.toList.contains c with
    | some c => failOption name c
    | none => pure ()

/-- Making variables seen by programs. -/
def exportVariables : Declaration := fun r name ds => do
  let extended ← Action.isExtended
  let (on, _, operands) ← declaredOptions name (if extended then "fnp" else "p") ds
  if operands.isEmpty || (!extended && on.contains 'p') then
    let sh ← Action.shell
    let list := if extended then extendedList sh Variable.exported
      else plainList sh "export" Variable.exported
    write name list
    return 0
  else if on.contains 'f' then
    let known := (← Action.shell).functions
    forEach (fun d => do
      if known.any fun f => f.1 == d.key then return 0
      else fail name (d.key ++ octetsOf ": not a function") 1) operands
  else
    forEach (fun d => declareOne r name false d fun v =>
      { v with exported := !on.contains 'n' }) operands

/-- Making variables constant. -/
def readonly : Declaration := fun r name ds => do
  let extended ← Action.isExtended
  let (on, _, operands) ← declaredOptions name (if extended then "aAfp" else "p") ds
  if operands.isEmpty || (!extended && on.contains 'p') then
    let sh ← Action.shell
    let list := if extended then extendedList sh Variable.constant
      else plainList sh "readonly" Variable.constant
    write name list
    return 0
  else
    forEach (fun d => declareOne r name true d fun v => { v with constant := true }) operands

/-- A variable with the kinds that letters stand for, before it is set. -/
def withKinds (on off : List Char) (v : Variable) : Variable :=
  let value := match v.value with
    | some (.text cs) =>
        if on.contains 'A' then some (.table [(['0'], cs)])
        else if on.contains 'a' then some (.list [(0, cs)])
        else some (.text cs)
    | some value => some value
    | none =>
        if on.contains 'A' then some (.table [])
        else if on.contains 'a' then some (.list [])
        else none
  { v with
    value := value
    whole := (v.whole || on.contains 'i') && !off.contains 'i'
    exported := (v.exported || on.contains 'x') && !off.contains 'x'
    letters :=
      if on.contains 'u' then some true
      else if on.contains 'l' then some false
      else if off.contains 'u' || off.contains 'l' then none
      else v.letters }

/-- Hiding a variable for the time of a function. -/
def makeLocal (name : Octets) : Action Unit := do
  let old ← Action.variableNamed? name
  let isHidden := ((← Action.shell).hidden.headD []).any fun e => e.1 == name
  Action.changeShell fun sh => { sh with hidden := hide name old sh.hidden }
  if (← Action.isExtended) && !isHidden then
    Action.putVariable name
      { Assignment.unset with exported := old.any Variable.exported }

/-- Declaring variables of the extended shell, perhaps for the time of a function. -/
def declareWith (isLocal : Bool) (on off : List Char) : Declaration := fun r name ds =>
  forEach (fun d => do
    if !isName d.key then refuseName name d
    else
      let isConstant := ((← Action.variableNamed? d.key).map Variable.constant).getD false
      if isConstant && isLocal then
        fail name (d.key ++ octetsOf ": readonly variable") 1
      else do
        if isLocal then makeLocal d.key
        let v := (← Action.variableNamed? d.key).getD Assignment.unset
        if !v.constant then Action.putVariable d.key (withKinds on off v)
        declareOne r name true d fun v =>
          { v with constant := v.constant || on.contains 'r' }) ds

/-- The declarations of variables that are named, or of all. -/
def printDeclared (name : Octets) (ds : List Declared) : Deed Nat := do
  let sh ← Action.shell
  if ds.isEmpty then
    write name (extendedList sh fun _ => true)
    return 0
  else forEach (fun d => do
    match ← Action.variableNamed? d.key with
    | some v => do
        write name (declarationOf d.key v)
        return 0
    | none => fail name (d.key ++ octetsOf ": not found") 1) ds

/-- Declaring variables with kinds, or telling about them. -/
def declare : Declaration := fun r name ds => do
  let (on, off, operands) ← declaredOptions name "aAfFgiIlnprtux" ds
  let sh ← Action.shell
  if on.contains 'F' || on.contains 'f' then
    let shown := sh.functions.filter fun f =>
      operands.isEmpty || operands.any fun d => d.key == f.1
    let names := (shown.map Prod.fst).mergeSort octetsLe
    if on.contains 'F' then
      write name (names.flatMap fun n =>
        if operands.isEmpty then octetsOf "declare -f " ++ n ++ ['\n'] else n ++ ['\n'])
    return if operands.all fun d => names.contains d.key then 0 else 1
  else if on.contains 'p' then printDeclared name operands
  else if operands.isEmpty then
    write name (variablesList sh)
    return 0
  else declareWith (!sh.hidden.isEmpty && !on.contains 'g') on off r name operands

/-- Hiding variables for the time of a function, in the common shell: they keep their values. -/
def plainLocal : Declaration := fun r name ds =>
  forEach (fun d => do
    if !isName d.key then refuseName name d
    else do
      makeLocal d.key
      match d with
      | .name _ => return 0
      | d => declareOne r name false d id) ds

/-- Declaring variables for the time of a function. -/
def localVariables : Declaration := fun r name ds => do
  if (← Action.shell).hidden.isEmpty then
    failBy name (octetsOf "not in a function") (octetsOf "can only be used in a function") 2 1
  else if ← Action.isExtended then
    let (on, off, operands) ← declaredOptions name "aAfFgiIlnprtux" ds
    declareWith true on off r name operands
  else plainLocal r name ds

/-! ### Removing -/

/-- The name and the subscript of an element that a text names. -/
def elementOf? (cs : Octets) : Option (Octets × Octets) :=
  let name := cs.takeWhile isNameChar
  match cs.drop name.length with
  | '[' :: rest => if isName name && rest.getLast? = some ']' then some (name, rest.dropLast) else none
  | _ => none

/-- Removing a variable. -/
def unsetVariable (command name : Octets) : Deed Nat := do
  if ((← Action.variableNamed? name).map Variable.constant).getD false then
    failBy command (name ++ octetsOf ": is read only")
      (name ++ octetsOf ": cannot unset: readonly variable") 2 1
  else
    Action.removeVariable name
    return 0

/-- Removing a function. -/
def unsetFunction (name : Octets) : Action Unit :=
  Action.changeShell fun sh => { sh with functions := removeFrom name sh.functions }

/-- Removing an element. -/
def unsetElement (name sub : Octets) : Deed Nat := do
  match ← Action.variableNamed? name with
  | none => return 0
  | some v => do
      let key : Action Calculation.Key :=
        Expand.calculated (Calculation.keyOf Calculation.evaluate name sub)
      let k ← key
      Action.putVariable name { v with value := v.value.bind (Calculation.removeElement · k) }
      return 0

/-- Removing a variable or, where there is none in the extended shell, a function. -/
def unsetOne (command name : Octets) (os : List (Char × Octets)) : Deed Nat := do
  if has os 'f' then
    unsetFunction name
    return 0
  else if ← Action.isExtended then
    match elementOf? name with
    | some (x, sub) => unsetElement x sub
    | none => do
        if (← Action.variableNamed? name).isSome || has os 'v' then unsetVariable command name
        else do
          unsetFunction name
          return 0
  else if !isName name then fail command (name ++ octetsOf ": bad variable name") 2
  else unsetVariable command name

/-- Removing variables or functions. -/
def unset : Builtin := fun _ name args => do
  let extended ← Action.isExtended
  let (os, operands) ← options name (if extended then "fvn" else "fv") "" args
  forEach (fun x => unsetOne name x os) operands

/-! ### Expressions -/

/-- Evaluating expressions; the last one tells the outcome. -/
def evaluateExpressions : Builtin := fun _ name args => do
  if args.isEmpty then fail name (octetsOf "expression expected") 1
  else
    let values ← args.mapM fun a => do
      let result : Except Octets Int ← ExceptT.lift (Calculation.evaluate a).run
      match result with
      | .ok n => return n
      | .error message => fail name message 1
    return if values.getLast? = some 0 then 1 else 0

/-! ### Other names of commands -/

/-- The drawer of the common shell in which a name is kept. -/
def drawer (name : Octets) : Nat :=
  (16 * (name.headD '\x00').toNat + (name.map Char.toNat).sum) % 39

/-- The other names in the order in which they are listed. -/
def listedNames (sh : Shell) : List (Octets × Octets) :=
  match sh.dialect with
  | .plain => sh.aliases.mergeSort fun a b => drawer a.1 ≤ drawer b.1
  | .extended => sh.aliases.mergeSort fun a b => octetsLe a.1 b.1

/-- Another name of a command as it is listed. -/
def nameLine (d : Dialect) (entry : Octets × Octets) : Octets :=
  match d with
  | .plain => entry.1 ++ '=' :: plainQuoted entry.2 ++ ['\n']
  | .extended => octetsOf "alias " ++ entry.1 ++ '=' :: Expand.quoted entry.2 ++ ['\n']

/-- Saying that a name is not known. -/
def sayUnknown (name a : Octets) : Action Nat := do
  if ← Action.isExtended then Action.complainOf name (a ++ octetsOf ": not found")
  else Action.put 2 (name ++ octetsOf ": " ++ a ++ octetsOf " not found\n")
  return 1

/-- Giving commands other names, or telling about them. Scripts go on with the names as they are. -/
def otherNames : Builtin := fun _ name args => do
  let sh ← Action.shell
  if args.isEmpty || args = [['-', 'p']] then
    write name ((listedNames sh).flatMap (nameLine sh.dialect))
    return 0
  else
    let codes ← args.mapM fun a => do
      let key := a.takeWhile (· != '=')
      if a.head? = some '-' then return 0
      else if key.isEmpty || key.length = a.length then
        match (← Action.shell).aliases.lookup a with
        | some text => do
            write name (nameLine sh.dialect (a, text))
            return 0
        | none => sayUnknown name a
      else
        Action.changeShell fun sh =>
          { sh with aliases := setIn key (a.drop (key.length + 1)) sh.aliases }
        return 0
    return codes.foldl max 0

/-- Taking other names from commands. -/
def removeNames : Builtin := fun _ name args => do
  if args.isEmpty && (← Action.isExtended) then failUsage name
  else if args.head? = some ['-', 'a'] then
    Action.changeShell fun sh => { sh with aliases := [] }
    return 0
  else
    let codes ← args.mapM fun a => do
      if ((← Action.shell).aliases.lookup a).isSome then
        Action.changeShell fun sh => { sh with aliases := removeFrom a sh.aliases }
        return 0
      else sayUnknown name a
    return codes.foldl max 0

end Builtin

end Script

end LineShell
