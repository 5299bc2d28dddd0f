import LineShell.Calc.Token

/-!
# Spellings of expressions

How an expression can be written: numbers with operators between them, each number with or without
a sign, and any blanks and parentheses before, between and behind all of these. A power is written
with two stars or a caret.

Main statement: `isFiller_of_spells_end`, by which what stands behind the last number is filler.
-/

namespace LineShell

namespace Calc

/-- The characters that mean nothing in an expression. -/
def isFiller (c : Char) : Bool := c == ' ' || c == '(' || c == ')'

/-- Whether a text means nothing. -/
def IsFiller (cs : List Char) : Prop := ∀ c ∈ cs, isFiller c = true

/-- Whether a text is the digits of a number, of any length. -/
def IsNumeral (ds : List Char) : Prop :=
  ds ≠ [] ∧ (∀ d ∈ ds, isAsciiDigit d = true)

/-- The spellings of a number with its sign. -/
inductive SpellsNumber : List Char → Literal → Prop where
  /-- Digits alone. -/
  | unsigned {ds : List Char} (digits : IsNumeral ds) : SpellsNumber ds ⟨none, ds⟩
  /-- A sign before the digits. -/
  | signed {gap ds : List Char} (s : Sign) (filler : IsFiller gap) (digits : IsNumeral ds) :
      SpellsNumber (s.char :: gap ++ ds) ⟨some s, ds⟩

/-- The spellings of an operator. -/
inductive SpellsOperator : List Char → Operator → Prop where
  /-- Its symbol. -/
  | symbol (o : Operator) : SpellsOperator o.symbol.toList o
  /-- A caret, for a power. -/
  | caret : SpellsOperator ['^'] .pow

/-- The spellings of what follows a number: operators, each with a number behind it. -/
inductive SpellsLinks : List Char → List (Operator × Literal) → Prop where
  /-- Nothing that means anything. -/
  | nil {tail : List Char} (filler : IsFiller tail) : SpellsLinks tail []
  /-- An operator, a number, and what follows that. -/
  | cons {before between op num rest : List Char} {o : Operator} {n : Literal}
      {links : List (Operator × Literal)} (fillerBefore : IsFiller before)
      (operator : SpellsOperator op o) (fillerBetween : IsFiller between)
      (number : SpellsNumber num n) (tail : SpellsLinks rest links) :
      SpellsLinks (before ++ op ++ between ++ num ++ rest) ((o, n) :: links)

/-- The spellings of an expression. -/
inductive Spells : List Char → Literal → List (Operator × Literal) → Prop where
  /-- A number and what follows it. -/
  | intro {before num rest : List Char} {n : Literal} {links : List (Operator × Literal)}
      (filler : IsFiller before) (number : SpellsNumber num n) (tail : SpellsLinks rest links) :
      Spells (before ++ num ++ rest) n links

/-- What stands behind the last number is filler. -/
theorem isFiller_of_spells_end {tail : List Char} (h : SpellsLinks tail []) : IsFiller tail := by
  cases h with
  | nil filler => exact filler

end Calc

end LineShell
