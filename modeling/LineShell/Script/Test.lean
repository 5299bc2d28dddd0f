import LineShell.Script.Builtin.Control
import LineShell.Script.Builtin.Output
import LineShell.Script.Regex

/-!
# Tests and traces

Tests between double brackets, and what a shell writes about the commands that it is about to run.

Main statement: `holds_not_not`, by which the negation of a negation is the test.
-/

namespace LineShell

namespace Script

/-! ### Traces -/

namespace Trace

/-- What stands before a trace. In the extended shell its first octet tells how deeply the script is
nested. -/
def opening : Action Octets := do
  let sh ← Action.shell
  let mark := (← Action.textOf? "PS4".toList).getD "+ ".toList
  return match sh.dialect with
    | .plain => mark
    | .extended => List.replicate sh.level (mark.headD '+') ++ mark

/-- Writing a trace, if traces are asked for. -/
def put (cs : Octets) : Action Unit := do
  if ← Action.hasFlag 'x' then Action.put 2 ((← opening) ++ cs ++ ['\n'])

/-- Whether an octet has to be quoted where a word is shown. -/
def isMark (c : Char) : Bool := " \t\n'\"\\|&;()<>!\x7b\x7d*[?]^$`".toList.contains c

/-- A word as it is shown. -/
def shown (cs : Octets) : Octets :=
  if cs.isEmpty || cs.any isMark || cs.head? = some '~' || cs.head? = some '#' then
    Expand.quoted cs
  else cs

/-- Words as they are shown. -/
def words (d : Dialect) (ws : List Octets) : Octets :=
  match d with
  | .plain => joined ws
  | .extended => joined (ws.map shown)

end Trace

/-! ### Tests -/

namespace Test

/-- Refusing an expression in a test. -/
def numberOf (cs : Octets) : Action (Option Int) := do
  let result : Except Octets Int ← (Calculation.evaluate cs).run
  match result with
  | .ok n => return some n
  | .error message => do
      Action.complain (octetsOf "[[: " ++ message)
      return none

/-- The values of groups, as a list. -/
def groupsValue (f : Regex.Found) (count : Nat) : Value :=
  .list ((0, f.fitted) :: (List.range count).map fun i =>
    (i + 1, (f.groups.lookup (i + 1)).getD []))

/-- How many groups a pattern may have. -/
def maxGroups (cs : Octets) : Nat := cs.countP (· == '(')

/-- A regular expression from glyphs: quoted octets mean themselves. -/
def regexText (gs : List Glyph) : Octets :=
  gs.flatMap fun g =>
    if g.literal && !(g.octet.isAlphanum || g.octet == '_' || g.octet == ' ') then ['\\', g.octet]
    else [g.octet]

/-- Whether a regular expression fits somewhere in a text, and what fits; the code two tells that it
is none. -/
def fitsRegex (r : Runner) (cs : Octets) (w : Word) : Action Nat := do
  let gs := (← r.fields ⟨false, false⟩ (← Expand.tilde w) .none).allGlyphs
  let pattern := regexText gs
  match Regex.read ⟨true, ← Action.hasSetting "nocasematch", true, false⟩ pattern with
  | .error _ => return 2
  | .ok re => match Regex.search? re [] cs with
    | none => do
        Action.putVariable "BASH_REMATCH".toList
          { Assignment.unset with value := some (.list []) }
        return 1
    | some f => do
        Action.putVariable "BASH_REMATCH".toList
          { Assignment.unset with value := some (groupsValue f (maxGroups pattern)) }
        return 0

/-- A code for a truth. -/
def codeOf (b : Bool) : Nat := if b then 0 else 1

/-- The code of a test of two operands. -/
def binaryCode (r : Runner) (op : Octets) (left right : Word) : Action Nat := do
  let x ← Expand.wholeText r left
  let name := String.ofList op
  if op = "=~".toList then
    Trace.put (octetsOf "[[ " ++ Trace.shown x ++ octetsOf " =~ " ++ Redirect.writtenText right ++
      octetsOf " ]]")
    fitsRegex r x right
  else if ["=", "==", "!="].contains name then
    let gs := (← r.fields ⟨false, false⟩ (← Expand.tilde right) .none).allGlyphs
    let folded ← Action.hasSetting "nocasematch"
    let lower (cs : Octets) : Octets := if folded then cs.map Char.toLower else cs
    let gs := if folded then gs.map fun g => { g with octet := g.octet.toLower } else gs
    let written := gs.flatMap fun g => if g.literal && Trace.isMark g.octet then ['\\', g.octet]
      else [g.octet]
    Trace.put (octetsOf "[[ " ++ Trace.shown x ++ ' ' :: op ++ ' ' :: written ++ octetsOf " ]]")
    return codeOf (fits (marksOf gs) (lower x) != (name = "!="))
  else
    let y ← Expand.wholeText r right
    Trace.put (octetsOf "[[ " ++ Trace.shown x ++ ' ' :: op ++ ' ' :: Trace.shown y ++
      octetsOf " ]]")
    match Condition.compareNumbers? name with
    | some f => match ← numberOf x with
      | none => return 1
      | some a => match ← numberOf y with
        | none => return 1
        | some b => return codeOf (f a b)
    | none => match Condition.compareTexts? (← Action.disk) true name with
      | some f => return codeOf (f x y)
      | none => return 1

/-- The code of a test of one operand. -/
def unaryCode (r : Runner) (op : Octets) (w : Word) : Action Nat := do
  let x ← Expand.wholeText r w
  Trace.put (octetsOf "[[ " ++ op ++ ' ' :: Trace.shown x ++ octetsOf " ]]")
  return codeOf (Builtin.ask (← Action.shell) (← Action.disk) (op.getLastD 'n') x)

/-- The code of a negation; a fault remains one. -/
def negated (n : Nat) : Nat := if n = 0 then 1 else if n = 1 then 0 else n

/-- The code of a test; two stands for a fault. -/
def holds (r : Runner) : Test → Action Nat
  | .word w => unaryCode r "-n".toList w
  | .unary op w => unaryCode r op w
  | .binary op a b => binaryCode r op a b
  | .not t => negated <$> holds r t
  | .and s t => do
      let n ← holds r s
      if n = 0 then holds r t else return n
  | .or s t => do
      let n ← holds r s
      if n = 1 then holds r t else return n

/-- A code that is turned round twice is the code. -/
theorem negated_negated (n : Nat) : negated (negated n) = n := by
  unfold negated
  split
  · subst n
    simp
  · split <;> simp_all

/-- The negation of a negation is the test. -/
theorem holds_not_not (r : Runner) (t : Test) : holds r (.not (.not t)) = holds r t := by
  have h : (negated ∘ negated) = id := funext negated_negated
  rw [holds, holds, ← LawfulFunctor.comp_map, h, id_map]

end Test

end Script

end LineShell
