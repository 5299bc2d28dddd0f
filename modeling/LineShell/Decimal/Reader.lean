import LineShell.Text.Blank
import LineShell.Decimal.Limits

/-!
# Reading decimals

A numeral is an optional sign, digits with at most one point among them and at least one digit,
and optionally the letter E with a signed whole exponent. The digits may be of any script,
underscores are skipped wherever they stand, and blanks around the numeral do not count.

Only numbers that the notation can place are read: the leading digit must not stand above
`10 ^ maxLeadingExponent`, nor the last one below `10 ^ minExponent`.
-/

namespace LineShell

namespace Decimal

/-- A sign, if there is one, and the rest: `true` for minus. -/
def readSign : List Char → Bool × List Char
  | '-' :: cs => (true, cs)
  | '+' :: cs => (false, cs)
  | cs => (false, cs)

/-- An exponent part: nothing at all, or the letter E with a signed whole number. -/
def readExponent? : List Char → Option Int
  | [] => some 0
  | c :: cs =>
      if c = 'e' ∨ c = 'E' then
        let (negative, ds) := readSign cs
        if ds.isEmpty || !ds.all isDecimalDigit then none
        else some (if negative then -(ofDigits ds : Int) else ofDigits ds)
      else none

/-- Whether the notation can place a number. -/
def isPlaceable (d : Decimal) : Bool :=
  d.leadingExponent ≤ maxLeadingExponent && minExponent ≤ d.exponent

/-- Why a text writes no decimal. -/
inductive ReadError where
  /-- It is no numeral. -/
  | malformed
  /-- The notation cannot place the number. -/
  | unplaceable
deriving DecidableEq, Repr

/-- The wording of an error. -/
def ReadError.message : ReadError → String
  | malformed => "[<class 'decimal.ConversionSyntax'>]"
  | unplaceable => "[<class 'decimal.InvalidOperation'>]"

/-- The text of a numeral without blanks around it and underscores in it. -/
def numeralChars (s : String) : List Char := (Chars.trim s.toList).filter (· != '_')

/-- The number that a numeral writes, without regard to blanks and underscores. -/
def readNumeral (cs : List Char) : Except ReadError Decimal :=
  let (negative, body) := readSign cs
  let whole := body.takeWhile isDecimalDigit
  let (fraction, rest) := match body.dropWhile isDecimalDigit with
    | '.' :: r => (r.takeWhile isDecimalDigit, r.dropWhile isDecimalDigit)
    | r => ([], r)
  if whole.isEmpty && fraction.isEmpty then .error .malformed
  else match readExponent? rest with
    | none => .error .malformed
    | some e =>
        let n := ofDigits (whole ++ fraction)
        let d : Decimal := ⟨if negative then -(n : Int) else n, e - fraction.length⟩
        if d.isPlaceable then .ok d else .error .unplaceable

/-- The number that a text writes. -/
def read? (s : String) : Option Decimal := (readNumeral (numeralChars s)).toOption

end Decimal

end LineShell
