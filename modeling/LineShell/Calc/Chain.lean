import LineShell.Calc.Arithmetic

/-!
# Chains of operations

An expression without grouping is a chain: a number, then operators with their right operands. Its
value is found tier by tier. The fold of one tier goes from left to right, applies the operators of
that tier, and keeps the others for the tiers to come; after the last tier one number is left.

A chain is read off a token list, which is checked for length first and then for the alternation of
numbers and operators.
-/

namespace LineShell

namespace Calc

/-- Numbers joined by operators. -/
structure Chain where
  /-- The leftmost operand. -/
  first : Decimal
  /-- The operators with their right operands, from left to right. -/
  rest : List (Operator × Decimal)
deriving DecidableEq, Repr

namespace Chain

/-- The operands, from left to right. -/
def values (c : Chain) : List Decimal := c.first :: c.rest.map Prod.snd

/-- The operators, from left to right. -/
def operators (c : Chain) : List Operator := c.rest.map Prod.fst

end Chain

/-! ### Reading a chain off tokens -/

/-- An expression has three tokens at least and no numeral that is too long. -/
def checkTokens (ts : List Token) : Except Error Unit :=
  if ts.length < 3 then .error .tooFewTokens
  else if ts.any (fun
      | .number n => maxLiteralDigits < n.digits.length
      | .operator _ => false) then .error .literalTooLong
  else .ok ()

/-- What follows a number: operators, each with a number behind it. -/
def linksOfTokens : List Token → Except Error (List (Operator × Decimal))
  | [] => .ok []
  | .number n :: _ => .error (.operatorExpected (Token.number n).text)
  | [.operator o] => .error (.operandMissing o.symbol)
  | .operator _ :: .operator p :: _ => .error (.numberExpected p.symbol)
  | .operator o :: .number n :: ts => (linksOfTokens ts).map ((o, n.value) :: ·)

/-- The chain that tokens spell. -/
def Chain.ofTokens : List Token → Except Error Chain
  | [] => .error .tooFewTokens
  | .operator o :: _ => .error (.numberExpected o.symbol)
  | .number n :: ts => (linksOfTokens ts).map (⟨n.value, ·⟩)

/-! ### Folding -/

/-- One tier folded from left to right, with the operand that is being built on at hand. -/
def foldLinks (t : Tier) : Decimal → List (Operator × Decimal) → Except Failure Chain
  | x, [] => .ok ⟨x, []⟩
  | x, (o, y) :: links =>
      if o.tier = t then do foldLinks t (← o.apply x y) links
      else do
        let c ← foldLinks t y links
        return ⟨x, (o, c.first) :: c.rest⟩

/-- The chain with one tier folded. -/
def Chain.foldTier (t : Tier) (c : Chain) : Except Failure Chain := foldLinks t c.first c.rest

/-- The value of a chain: powers first, then products, then sums. -/
def Chain.value (c : Chain) : Except Failure Decimal := do
  let c ← c.foldTier .powers
  let c ← c.foldTier .products
  let c ← c.foldTier .sums
  return c.first

end Calc

end LineShell
