import LineShell.Calc.Error
import LineShell.Calc.Token
import LineShell.Decimal.Precision

/-!
# Applying operators

What each operator makes of two decimals. Sums, differences, products, remainders and powers are
worked out with as many digits as they need, within the limits of decimals; a quotient keeps fifty
places and is rounded once, half to even, whatever the limits. The exponent of a power is cut to a
whole number; a negative one gives the quotient of one and the power.

The size of an exponent is judged after it is cut to 28 leading digits, and the length of a power
by a bound that is known before it is computed.
-/

namespace LineShell

namespace Calc

/-- The leading digits of an exponent that count when its size is judged. -/
def comparedDigits : Nat := 28

/-- The power of ten beyond which an exponent cannot be compared. -/
def maxComparedExponent : Int := 999999

/-- The quotient, if its operands and itself are short enough to be converted. -/
def quotient (a b : Decimal) : Except Failure Decimal := do
  (Numeral.checkReadable a.coefficient.natAbs).mapError .conversion
  (Numeral.checkReadable b.coefficient.natAbs).mapError .conversion
  if b.isZero then throw .zeroDivisor
  let q := Decimal.quotientCoefficient quotientPlaces a b
  (Numeral.checkWritable q.natAbs).mapError .conversion
  return ⟨q, -quotientPlaces⟩

/-- The power with a natural exponent, unless it needs too many digits to work it out. -/
def naturalPower (a : Decimal) (n : Nat) : Except Failure Decimal :=
  if maxPowerDigits < a.powerDigits n then .error (.rejected .powerTooLong)
  else (a.natPower n).mapError .arithmetic

/-- Whether an exponent is too large, judged by its leading digits. -/
def exponentIsTooLarge (b : Decimal) : Bool :=
  let bound := Decimal.ofInt maxExponent
  let cut := b.abs.roundDigits comparedDigits
  bound.leadingExponent ≤ cut.leadingExponent && Decimal.lt bound cut

/-- The whole number that an exponent is cut to, unless it is too large. -/
def wholeExponent (b : Decimal) : Except Failure Int :=
  if !b.isZero && maxComparedExponent < (b.roundDigits comparedDigits).leadingExponent then
    .error (.arithmetic .overflow)
  else if exponentIsTooLarge b then .error (.rejected .exponentTooLarge)
  else .ok b.truncate

/-- The power. -/
def power (a b : Decimal) : Except Failure Decimal := do
  match ← wholeExponent b with
  | 0 => return .ofInt 1
  | .ofNat n => naturalPower a n
  | .negSucc m =>
      if a.isZero then throw (.rejected .divisionByZero)
      else quotient (.ofInt 1) (← naturalPower a (m + 1))

/-- What an operator makes of two numbers. -/
def Operator.apply : Operator → Decimal → Decimal → Except Failure Decimal
  | add, a, b => (a.sum b).mapError .arithmetic
  | sub, a, b => (a.difference b).mapError .arithmetic
  | mul, a, b => (a.product b).mapError .arithmetic
  | div, a, b => if b.isZero then .error (.rejected .divisionByZero) else quotient a b
  | mod, a, b =>
      if b.isZero then .error (.rejected .moduloByZero) else (a.remainder b).mapError .arithmetic
  | pow, a, b => power a b

end Calc

end LineShell
