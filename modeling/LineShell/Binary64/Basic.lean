import LineShell.Decimal.Rounding

/-!
# Binary floating-point numbers

The numbers of the 64-bit binary format, as signed products of a significand and a power of two.
Settings may hold such numbers, so three things are needed of them: the nearest one to a decimal
(`Binary64.ofDecimal`), the exact decimal that one stands for (`Binary64.toDecimal?`), and the
shortest text that reads back (in `LineShell.Binary64.Shortest`).

Main statement: `toDecimal?_eq_none_iff`, by which only the infinities and the value that is no
number lack a decimal.
-/

namespace LineShell

/-- A binary floating-point number. -/
inductive Binary64 where
  /-- A significand times a power of two. -/
  | finite (negative : Bool) (significand : Nat) (exponent : Int)
  /-- An infinity. -/
  | infinite (negative : Bool)
  /-- The value that is no number. -/
  | nan
deriving DecidableEq, Repr

namespace Binary64

/-- The bits of a full significand. -/
def significandBits : Nat := 53

/-- The lowest exponent. -/
def minExponent : Int := -1074

/-- The highest exponent. -/
def maxExponent : Int := 971

/-- The zero with a sign. -/
def zero (negative : Bool) : Binary64 := .finite negative 0 minExponent

/-! ### Rounding to the nearest -/

/-- The exponent of the highest power of two that is at most a quotient of positive numbers. -/
def floorLog (num den : Nat) : Int :=
  let e : Int := (Nat.log2 num : Int) - Nat.log2 den
  if den * 2 ^ e.toNat ≤ num * 2 ^ (-e).toNat then e else e - 1

/-- The number with a significand that may have one bit too many after rounding, or an exponent
that is too high. -/
def normalize (negative : Bool) (significand : Nat) (exponent : Int) : Binary64 :=
  let carried := significand == 2 ^ significandBits
  let m := if carried then significand / 2 else significand
  let e := if carried then exponent + 1 else exponent
  if m = 0 then zero negative
  else if maxExponent < e then .infinite negative
  else .finite negative m e

/-- The number nearest to a quotient of natural numbers, of two the one with the even
significand. -/
def ofQuotient (negative : Bool) (num den : Nat) : Binary64 :=
  if num = 0 then zero negative
  else
    let e := max (floorLog num den - (significandBits - 1)) minExponent
    normalize negative (Decimal.roundHalfEven (num * 2 ^ (-e).toNat) (den * 2 ^ e.toNat)).toNat e

/-- The leading power of ten from which on every decimal rounds to an infinity. -/
def overflowExponent : Int := 310

/-- The leading power of ten below which every decimal rounds to zero. -/
def underflowExponent : Int := -330

/-- The number nearest to a decimal with this magnitude. -/
def ofDecimal (negative : Bool) (d : Decimal) : Binary64 :=
  let n := d.coefficient.natAbs
  if n = 0 then zero negative
  else if overflowExponent ≤ d.leadingExponent then .infinite negative
  else if d.leadingExponent ≤ underflowExponent then zero negative
  else ofQuotient negative (n * 10 ^ d.exponent.toNat) (10 ^ (-d.exponent).toNat)

/-! ### Exact values -/

/-- The decimal that has the magnitude `significand * 2 ^ exponent`. -/
def magnitude (significand : Nat) (exponent : Int) : Decimal :=
  ⟨significand * 2 ^ exponent.toNat * 5 ^ (-exponent).toNat, min exponent 0⟩

/-- The decimal that a number stands for. -/
def toDecimal? : Binary64 → Option Decimal
  | finite negative m e =>
      let d := magnitude m e
      some (if negative then ⟨-d.coefficient, d.exponent⟩ else d)
  | infinite _ => none
  | nan => none

/-- Only the infinities and the value that is no number lack a decimal. -/
theorem toDecimal?_eq_none_iff {x : Binary64} :
    x.toDecimal? = none ↔ x = .nan ∨ ∃ negative, x = .infinite negative := by
  cases x <;> simp [toDecimal?]

/-- Whether a number is zero, of either sign. -/
def isZero : Binary64 → Bool
  | finite _ m _ => m == 0
  | _ => false

end Binary64

end LineShell
