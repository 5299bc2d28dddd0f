import LineShell.Script.Redirect

/-!
# Assignments

A word that begins with a name and an equals sign sets a variable where it stands in front of a
command. In the extended dialect a name may have a subscript, may be given a list of elements, and may
be given something behind what it had.
-/

namespace LineShell

namespace Script

/-- What a word sets. -/
structure Assignment where
  /-- The name. -/
  name : Octets
  /-- The subscript; empty if there is none. -/
  subscript : Word
  /-- Whether the value stands behind what was there. -/
  isAppended : Bool
  /-- The value. -/
  value : Word

namespace Assignment

/-- The value behind an equals sign, and whether it is appended, in front of the rest of a word. -/
def valueOf? (d : Dialect) (cs : Octets) (rest : Word) : Option (Bool × Word) :=
  match cs with
  | '=' :: v => some (false, if v.isEmpty then rest else .text false v :: rest)
  | '+' :: '=' :: v =>
      if d = .extended then some (true, if v.isEmpty then rest else .text false v :: rest) else none
  | _ => none

/-- What a word sets, if it sets anything. -/
def ofWord? (d : Dialect) (w : Word) : Option Assignment :=
  match w with
  | .text false cs :: rest =>
      let name := cs.takeWhile isNameChar
      if !isName name then none
      else match cs.drop name.length, rest with
        | [], .subscript sub :: .text false behind :: rest =>
            (valueOf? d behind rest).map fun (a, v) => ⟨name, sub, a, v⟩
        | behind, rest => (valueOf? d behind rest).map fun (a, v) => ⟨name, [], a, v⟩
  | _ => none

/-- The value of a variable that wants an expression. -/
def wanted (v : Variable) (cs : Octets) : Action Octets := do
  if v.whole then return Numeral.signedDigits (← Expand.calculated (Calculation.evaluate cs))
  else return cs

/-- A value behind another one: their sum where an expression is wanted. -/
def appended (v : Variable) (old cs : Octets) : Action Octets := do
  if v.whole then
    let a ← Expand.calculated (Calculation.evaluate old)
    let b ← Expand.calculated (Calculation.evaluate cs)
    return Numeral.signedDigits (a + b)
  else return old ++ cs

/-- A variable without a value. -/
def unset : Variable := ⟨none, false, false, false, none⟩

/-- Setting an element of a list. -/
def setElement (name sub : Octets) (isAppended : Bool) (cs : Octets) : Action Unit := do
  let k ← Expand.calculated (Calculation.keyOf Calculation.evaluate name sub)
  let v := (← Action.variableNamed? name).getD unset
  if v.constant then Action.refuseConstant name
  else
    let old := (v.value.bind (Calculation.element? · k)).getD []
    let cs ← if isAppended then appended v old cs else wanted v cs
    Action.putVariable name
      { v with value := some (Calculation.setElement v.value k (Action.recased v cs)) }

/-- The subscript of an element and its value, if it has a subscript. -/
def elementOf? : Word → Option (Word × Word)
  | .subscript sub :: .text false ('=' :: cs) :: rest =>
      some (sub, if cs.isEmpty then rest else .text false cs :: rest)
  | _ => none

/-- Setting the elements of a list from a number on. -/
def setElements (r : Runner) (name : Octets) : Nat → List Word → Action Unit
  | _, [] => pure ()
  | n, w :: ws => match elementOf? w with
    | some (sub, value) => do
        let sub ← Expand.subscriptText r.toEngine sub
        setElement name sub false (← Expand.wholeText r value)
        let next := if sub.all isAsciiDigit then ofDigits sub + 1 else n
        setElements r name next ws
    | none => do
        let fields ← Expand.fieldsOfWord r w
        let v := (← Action.variableNamed? name).getD unset
        let entries := fields.mapIdx fun i cs => (n + i, Action.recased v cs)
        let value := match v.value with
          | some (.list old) => Value.list (entries.foldl (fun l e =>
              Action.setInOrder e.1 e.2 l) old)
          | some (.table old) => .table old
          | _ => .list entries
        Action.putVariable name { v with value := some value }
        setElements r name (n + fields.length) ws

/-- Setting a list. -/
def setList (r : Runner) (name : Octets) (isAppended : Bool) (ws : List Word) : Action Unit := do
  let v := (← Action.variableNamed? name).getD unset
  if v.constant then Action.refuseConstant name
  else
    let empty := match v.value with
      | some (.table _) => Value.table []
      | _ => .list []
    let start := match isAppended, v.value with
      | true, some (.text cs) => .list [(0, cs)]
      | true, some value => value
      | _, _ => empty
    Action.putVariable name { v with value := some start }
    setElements r name (Calculation.lengthOfList (some start)) ws

/-- The text that is assigned, if it is not a list. -/
def text (r : Runner) (a : Assignment) : Action Octets := do
  Expand.text r.toEngine (← Expand.assignedTildes a.value)

/-- Setting what a word sets. -/
def perform (r : Runner) (a : Assignment) : Action Unit := do
  match a.value with
  | [.elements ws] => setList r a.name a.isAppended ws
  | _ => do
      let cs ← text r a
      if a.subscript.isEmpty then
        let v := (← Action.variableNamed? a.name).getD unset
        let old := (v.value.bind Action.textOfValue).getD []
        let cs ← if a.isAppended then appended v old cs else wanted v cs
        Action.setText a.name cs
      else setElement a.name (← Expand.subscriptText r.toEngine a.subscript) a.isAppended cs

end Assignment

end Script

end LineShell
