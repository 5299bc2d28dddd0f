import LineShell.Decimal.Basic

/-!
# Plain notation

The written form of a decimal: the whole part, then a point and the fraction if there is one. No
exponent is ever used, a fraction does not end in zero, a whole part has no superfluous zero, and
zero has no sign. A number has one written form, whatever its representation. The texts that are
written so are those of which `IsPlain` holds.

A number that is very large or very close to zero has a long notation. How much room there is for
notations is a matter of the machine; without enough of it `plain?` declines.
-/

namespace LineShell

namespace Decimal

/-- Digits without the zeros at their end. -/
def dropFinalZeros (ds : List Char) : List Char := (ds.reverse.dropWhile (· == '0')).reverse

/-- Digits with so many of them behind a point, which is left out if only zeros follow it. -/
def pointed (places : Nat) (ds : List Char) : List Char :=
  let padded := List.replicate (places + 1 - ds.length) '0' ++ ds
  let whole := padded.length - places
  let fraction := dropFinalZeros (padded.drop whole)
  padded.take whole ++ (if fraction.isEmpty then [] else '.' :: fraction)

/-- The notation of a number that is not zero: its digits, with zeros behind them or a point among
them. -/
def nonzeroChars (d : Decimal) : List Char :=
  let ds := Numeral.digits d.coefficient.natAbs
  (if d.coefficient < 0 then ['-'] else []) ++
    match d.exponent with
    | .ofNat zeros => ds ++ List.replicate zeros '0'
    | .negSucc n => pointed (n + 1) ds

/-- The notation of a number. -/
def plainChars (d : Decimal) : List Char := if d.isZero then ['0'] else d.nonzeroChars

/-- A number in plain notation. -/
def plain (d : Decimal) : String := String.ofList d.plainChars

/-- The room that a notation takes while it is made. The places of zero are made and dropped
again. -/
def roomFor (d : Decimal) : Nat :=
  if d.isZero && 0 ≤ d.exponent then 1 else d.digitCount + d.exponent.natAbs

/-- Whether there is room for a number's notation, if there is room for so many characters. -/
def hasRoom (room : Nat) (d : Decimal) : Bool := d.roomFor ≤ room

/-- A number in plain notation, if there is room for it. -/
def plain? (room : Nat) (d : Decimal) : Option String := if d.hasRoom room then some d.plain else none

/-! ### The notation as such -/

/-- Whether a text is the whole part of a number: digits without a superfluous zero in front. -/
def IsWholePart (ds : List Char) : Prop :=
  ds ≠ [] ∧ (∀ d ∈ ds, isAsciiDigit d = true) ∧ (ds.head? = some '0' → ds = ['0'])

/-- Whether a text is the fraction of a number: digits that do not end in zero. -/
def IsFraction (ds : List Char) : Prop :=
  (∀ d ∈ ds, isAsciiDigit d = true) ∧ ds.getLast? ≠ some '0'

/-- The texts in plain notation. -/
inductive IsPlain : List Char → Prop where
  /-- A number that is not negative. -/
  | unsigned {whole fraction : List Char} (hw : IsWholePart whole) (hf : IsFraction fraction) :
      IsPlain (whole ++ if fraction.isEmpty then [] else '.' :: fraction)
  /-- A negative number, which is not zero. -/
  | negative {whole fraction : List Char} (hw : IsWholePart whole) (hf : IsFraction fraction)
      (nonzero : whole ≠ ['0'] ∨ fraction ≠ []) :
      IsPlain ('-' :: whole ++ if fraction.isEmpty then [] else '.' :: fraction)

/-- Zero is written as a single digit. -/
theorem plainChars_of_isZero {d : Decimal} (h : d.isZero = true) : d.plainChars = ['0'] := by
  simp [plainChars, h]

end Decimal

end LineShell
