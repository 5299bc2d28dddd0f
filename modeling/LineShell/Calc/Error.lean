import LineShell.Decimal.Limits
import LineShell.Numeral

/-!
# Limits and errors of the calculator

An expression is turned down for one of the causes of `Error`, each with its wording. A
`Failure` is such a cause or one that lies below the calculator: the bound on numerals that are
converted, a limit of the decimals, a power that came to nothing in a divisor, or the room for what is
shown.
-/

namespace LineShell

namespace Calc

/-- The longest expression, in characters. -/
def maxInput : Nat := 10000

/-- The longest numeral of an expression, in digits. -/
def maxLiteralDigits : Nat := 1000

/-- The greatest magnitude of an exponent. -/
def maxExponent : Nat := 1000

/-- The most digits that a power may come to. -/
def maxPowerDigits : Nat := 10000

/-- The places that a quotient keeps. -/
def quotientPlaces : Nat := 50

/-- Why an expression is turned down. -/
inductive Error where
  /-- There is nothing to evaluate. -/
  | emptyExpression
  /-- The expression has too many characters. -/
  | tooLong
  /-- A character stands in it that no expression has. -/
  | invalidCharacter
  /-- There are fewer than three tokens. -/
  | tooFewTokens
  /-- A number was due. -/
  | numberExpected (got : String)
  /-- An operator was due. -/
  | operatorExpected (got : String)
  /-- The expression ends behind an operator. -/
  | operandMissing (operator : String)
  /-- A numeral has too many digits. -/
  | literalTooLong
  /-- A power would have too many digits. -/
  | powerTooLong
  /-- The divisor is zero. -/
  | divisionByZero
  /-- The divisor of a remainder is zero. -/
  | moduloByZero
  /-- The exponent is too large. -/
  | exponentTooLarge
deriving DecidableEq, Repr

/-- The wording of an error. -/
def Error.message : Error → String
  | emptyExpression => "Empty expression"
  | tooLong => s!"Expression too long (max {maxInput} characters)"
  | invalidCharacter => "Invalid expression. Only numbers and basic operators are allowed."
  | tooFewTokens => "Malformed expression: expected <number> <operator> <number>"
  | numberExpected got => s!"Malformed expression: expected a number, got '{got}'"
  | operatorExpected got => s!"Expected an operator, got '{got}'"
  | operandMissing op => s!"Missing operand after '{op}'"
  | literalTooLong => s!"Number too long (max {maxLiteralDigits} digits)"
  | powerTooLong => s!"Result too long (max {maxPowerDigits} digits)"
  | divisionByZero => "Division by zero"
  | moduloByZero => "Modulo by zero"
  | exponentTooLarge => s!"Exponent too large (max {maxExponent})"

/-- Why an evaluation ends without a value. -/
inductive Failure where
  /-- The calculator turns the expression down. -/
  | rejected (e : Error)
  /-- A numeral would be longer than what is converted. -/
  | conversion (e : Numeral.LimitError)
  /-- An operation on decimals has no result. -/
  | arithmetic (s : Decimal.Signal)
  /-- Nothing was left of a divisor. -/
  | zeroDivisor
  /-- There is no room for the notation of the value. -/
  | noRoom
deriving DecidableEq, Repr

/-- The wording of a failure. -/
def Failure.message : Failure → String
  | rejected e => e.message
  | conversion e => e.message
  | arithmetic s => s.message
  | zeroDivisor => "integer division or modulo by zero"
  | noRoom => ""

/-- Whether a failure lies below the calculator. -/
def Failure.isFault : Failure → Bool
  | rejected _ => false
  | _ => true

end Calc

end LineShell
