import LineShell.Script.Expression
import LineShell.Script.State

/-!
# Values of expressions

An expression is evaluated on the variables of a shell. In the extended dialect the text of a
variable is an expression again, and variables may be lists, whose subscripts are expressions; in
the plain one it has to be a number.
-/

namespace LineShell

namespace Script

/-- An action that may fail with something to be said. -/
abbrev Calculation := ExceptT Octets Action

namespace Calculation

/-! ### Lists -/

/-- The place of an element. -/
inductive Key where
  /-- The number of an element of a list. -/
  | number (n : Nat)
  /-- The name of an element of a table. -/
  | name (cs : Octets)
deriving DecidableEq, Repr

/-- The element of a value at a place. -/
def element? (v : Value) (k : Key) : Option Octets :=
  match v, k with
  | .list entries, .number n => entries.lookup n
  | .table entries, .name cs => entries.lookup cs
  | .text cs, .number 0 => some cs
  | _, _ => none

/-- A value with an element set. -/
def setElement (v : Option Value) (k : Key) (cs : Octets) : Value :=
  match v, k with
  | some (.list entries), .number n => .list (Action.setInOrder n cs entries)
  | some (.table entries), .name key => .table (setIn key cs entries)
  | some (.text old), .number n => .list (Action.setInOrder n cs [(0, old)])
  | _, .number n => .list [(n, cs)]
  | _, .name key => .table [(key, cs)]

/-- A value without an element. -/
def removeElement (v : Value) (k : Key) : Option Value :=
  match v, k with
  | .list entries, .number n => some (.list (removeFrom n entries))
  | .table entries, .name key => some (.table (removeFrom key entries))
  | .text _, .number 0 => none
  | v, _ => some v

/-- The number behind the last one of a list. -/
def lengthOfList : Option Value → Nat
  | some (.list entries) => (entries.getLast?.map fun e => e.1 + 1).getD 0
  | some (.text _) => 1
  | _ => 0

/-- The number that a subscript means; a negative one counts from the end. -/
def numberOfIndex (v : Option Value) (i : Int) : Option Nat :=
  if 0 ≤ i then some i.toNat
  else if 0 ≤ i + lengthOfList v then some (i + lengthOfList v).toNat
  else none

/-- The place that a subscript means; its value as an expression is found by the first argument. -/
def keyOf (evaluate : Octets → Calculation Int) (name sub : Octets) : Calculation Key := do
  let v := ((← Action.variableNamed? name).bind Variable.value)
  match v with
  | some (.table _) => return .name sub
  | v => match numberOfIndex v (← evaluate sub) with
    | some n => return .number n
    | none => throw (name ++ '[' :: sub ++ octetsOf "]: bad array subscript")

/-! ### Variables in expressions -/

/-- The text of a variable or an element of it. The extended shell may be told to end for a missing
one. -/
def textOf (evaluate : Octets → Calculation Int) (name sub : Octets) : Calculation Octets := do
  if sub.isEmpty then
    match ← Action.textOf? name with
    | some cs => return cs
    | none => do
        if (← Action.hasFlag 'u') && (← Action.isExtended) then
          Action.complain (name ++ octetsOf ": unbound variable")
          throwThe Stop (.finish (if (← Action.shell).isCopy then 1 else 127))
        else return []
  else
    let k ← keyOf evaluate name sub
    let v := (← Action.variableNamed? name).bind Variable.value
    return (v.bind (element? · k)).getD []

/-- Setting a variable or an element of it. -/
def setTextOf (evaluate : Octets → Calculation Int) (name sub : Octets) (cs : Octets) :
    Calculation Unit := do
  if sub.isEmpty then Action.setText name cs
  else
    let k ← keyOf evaluate name sub
    let v := (← Action.variableNamed? name).getD ⟨none, false, false, false, none⟩
    if v.constant then Action.refuseConstant name
    else
      Action.putVariable name
        { v with value := some (setElement v.value k (Action.recased v cs)) }

/-- The number that a text writes in the plain dialect, with white space around it. -/
def plainNumber? (cs : Octets) : Option Int :=
  let cs := ((cs.dropWhile isSpace).reverse.dropWhile isSpace).reverse
  let read (ds : Octets) : Option Int :=
    if ds.head?.any isAsciiDigit then
      match Script.plainNumber ds with
      | (n, []) => some n
      | _ => none
    else none
  match cs with
  | [] => some 0
  | '-' :: ds => (read ds).map fun n => -n
  | '+' :: ds => read ds
  | ds => read ds

/-- The number that a variable stands for. -/
def numberOf (evaluate : Octets → Calculation Int) (name sub : Octets) : Calculation Int := do
  let cs ← textOf evaluate name sub
  if ← Action.isExtended then evaluate cs
  else match plainNumber? cs with
    | some n => return n
    | none => throw (octetsOf "Illegal number: " ++ cs)

/-! ### Values -/

/-- Saying what is wrong with an expression. -/
def failAt {α : Type} (text : Octets) (e : ExpressionError) : Calculation α := do
  throw (e.message (← Action.shell).dialect text)

/-- What an operator makes of two numbers. -/
def apply (text : Octets) (op : String) (near : Octets) (a b : Int) : Calculation Int := do
  match applyBinary op a b with
  | .ok n => return n
  | .error f => failAt text ⟨f, near⟩

/-- The value of an expression that is written so. -/
def value (evaluate : Octets → Calculation Int) (text : Octets) : Expression → Calculation Int
  | .number n => return n
  | .name x sub => numberOf evaluate x sub
  | .unary op e => do return applyUnary op (← value evaluate text e)
  | .binary op a b near => do
      let x ← value evaluate text a
      if op = "&&" then
        if x = 0 then return 0 else return ofTruth ((← value evaluate text b) != 0)
      else if op = "||" then
        if x = 0 then return ofTruth ((← value evaluate text b) != 0) else return 1
      else do
        let y ← value evaluate text b
        apply text op near x y
  | .choose c a b => do
      if (← value evaluate text c) = 0 then value evaluate text b else value evaluate text a
  | .assign x sub op e near => do
      let n ← if op.isEmpty then value evaluate text e
        else do
          let old ← numberOf evaluate x sub
          let new ← value evaluate text e
          apply text op near old new
      setTextOf evaluate x sub (Numeral.signedDigits n)
      return n
  | .step x sub after amount => do
      let old ← numberOf evaluate x sub
      let new := wrap (old + amount)
      setTextOf evaluate x sub (Numeral.signedDigits new)
      return if after then new else old

/-- The value of the expression that a text writes. The number bounds how deeply variables stand for
one another. -/
def evaluateFrom : Nat → Octets → Calculation Int
  | 0, text => failAt text ⟨.endless, text⟩
  | n + 1, text => do
      match Expression.read (← Action.shell).dialect text with
      | .error e => failAt text e
      | .ok e => value (evaluateFrom n) text e

/-- How deeply variables may stand for one another. -/
def maxDepth : Nat := 1024

/-- The value of the expression that a text writes. -/
def evaluate (text : Octets) : Calculation Int := evaluateFrom maxDepth text

/-- The value of an expression in a word; the shell complains about a faulty one, and stops. -/
def evaluateHere (text : Octets) : Action Int := do
  match ← (evaluate text).run with
  | .ok n => return n
  | .error message => do
      Action.complain message
      if ← Action.isExtended then throw (.abandon 1) else throw (.finish 2)

end Calculation

end Script

end LineShell
