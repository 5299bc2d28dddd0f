import LineShell.Decimal.Basic

/-!
# Tokens of the calculator

Operators, signed numerals, and the tokens that an expression is a list of. Every token has a text,
which is the spelling that it has in the expression, and every numeral has a value.
-/

namespace LineShell

namespace Calc

/-- The binary operators. -/
inductive Operator where
  /-- Sum. -/
  | add
  /-- Difference. -/
  | sub
  /-- Product. -/
  | mul
  /-- Quotient. -/
  | div
  /-- Remainder. -/
  | mod
  /-- Power. -/
  | pow
deriving DecidableEq, Repr

/-- How tightly an operator binds, from the tightest tier to the loosest. -/
inductive Tier where
  /-- Powers. -/
  | powers
  /-- Products, quotients and remainders. -/
  | products
  /-- Sums and differences. -/
  | sums
deriving DecidableEq, Repr

namespace Operator

/-- The spelling of an operator. -/
def symbol : Operator → String
  | add => "+"
  | sub => "-"
  | mul => "*"
  | div => "/"
  | mod => "%"
  | pow => "**"

/-- The operator of a spelling. -/
def ofSymbol? : String → Option Operator
  | "+" => some add
  | "-" => some sub
  | "*" => some mul
  | "/" => some div
  | "%" => some mod
  | "**" => some pow
  | _ => none

/-- The tier of an operator. -/
def tier : Operator → Tier
  | pow => .powers
  | mul | div | mod => .products
  | add | sub => .sums

theorem ofSymbol?_symbol (o : Operator) : ofSymbol? o.symbol = some o := by
  cases o <;> rfl

end Operator

/-- A sign written before a numeral. -/
inductive Sign where
  /-- The plus sign. -/
  | plus
  /-- The minus sign. -/
  | minus
deriving DecidableEq, Repr

/-- The character of a sign. -/
def Sign.char : Sign → Char
  | plus => '+'
  | minus => '-'

/-- A numeral as it is typed: a sign, if one is written, and digits. -/
structure Literal where
  /-- The sign that is written. -/
  sign : Option Sign
  /-- The digits, leading zeros included. -/
  digits : List Char
deriving DecidableEq, Repr

namespace Literal

/-- The spelling of a numeral. -/
def chars (n : Literal) : List Char := (n.sign.map Sign.char).toList ++ n.digits

/-- The whole number that a numeral writes. -/
def toInt (n : Literal) : Int :=
  if n.sign = some .minus then -(ofDigits n.digits : Int) else ofDigits n.digits

/-- The number that a numeral writes. -/
def value (n : Literal) : Decimal := Decimal.ofInt n.toInt

end Literal

/-- A token of an expression. -/
inductive Token where
  /-- A numeral with its sign. -/
  | number (n : Literal)
  /-- An operator. -/
  | operator (o : Operator)
deriving DecidableEq, Repr

/-- The spelling of a token. -/
def Token.text : Token → String
  | number n => String.ofList n.chars
  | operator o => o.symbol

end Calc

end LineShell
