import LineShell.Numeral

/-!
# Decimals

Exact decimal numbers: a whole coefficient and a power of ten. Sums, differences, products,
remainders and whole powers of decimals are decimals, and the operations below give them without
any rounding. A number has many representations (`2.50` and `2.5`); the coefficient's length and
the exponent are kept as they arise, because limits elsewhere are stated on them.

Two decimals are brought to one exponent by `scaled`, after which each operation is that of the
integers.
-/

namespace LineShell

/-- The number `coefficient * 10 ^ exponent`. -/
structure Decimal where
  /-- The digits, with the sign. -/
  coefficient : Int
  /-- The power of ten that the last digit counts. -/
  exponent : Int
deriving DecidableEq, Repr

namespace Decimal

/-- A whole number. -/
def ofInt (n : Int) : Decimal := ⟨n, 0⟩

/-- The coefficient that a number has at a given exponent, which is at most its own. Zero has the
same at every exponent, however far away. -/
def scaled (e : Int) (d : Decimal) : Int :=
  if d.coefficient = 0 then 0 else d.coefficient * 10 ^ (d.exponent - e).toNat

/-- The exponent at which two numbers can be compared. -/
def commonExponent (a b : Decimal) : Int := min a.exponent b.exponent

/-- Whether the number is zero. -/
def isZero (d : Decimal) : Bool := d.coefficient == 0

/-- The digits of the coefficient; zero has one. -/
def digitCount (d : Decimal) : Nat := Numeral.length d.coefficient.natAbs

/-- The power of ten that the leading digit counts. -/
def leadingExponent (d : Decimal) : Int := d.exponent + d.digitCount - 1

/-- The exact sum. -/
def add (a b : Decimal) : Decimal :=
  let e := commonExponent a b
  ⟨a.scaled e + b.scaled e, e⟩

/-- The exact difference. -/
def sub (a b : Decimal) : Decimal :=
  let e := commonExponent a b
  ⟨a.scaled e - b.scaled e, e⟩

/-- The exact product. -/
def mul (a b : Decimal) : Decimal :=
  ⟨a.coefficient * b.coefficient, a.exponent + b.exponent⟩

/-- Whether a number is zero, or its leading digit stands below that of another. -/
def isFarBelow (a b : Decimal) : Bool := a.isZero || a.leadingExponent < b.leadingExponent

/-- The exact remainder of the division whose whole quotient is cut toward zero: it has the sign
of the dividend. Nothing is divided if the dividend is far below the divisor. -/
def mod (a b : Decimal) : Decimal :=
  let e := commonExponent a b
  ⟨if isFarBelow a b then a.scaled e else (a.scaled e).tmod (b.scaled e), e⟩

/-- The exact power with a natural exponent. -/
def pow (a : Decimal) (n : Nat) : Decimal :=
  ⟨a.coefficient ^ n, a.exponent * n⟩

/-- The whole number that remains when the fraction is cut off; nothing remains of a number whose
leading digit stands behind the point, or of zero. -/
def truncate (d : Decimal) : Int :=
  if d.isZero || d.leadingExponent < 0 then 0
  else (d.coefficient * 10 ^ d.exponent.toNat).tdiv (10 ^ (-d.exponent).toNat)

/-- The number without its sign. -/
def abs (d : Decimal) : Decimal := ⟨d.coefficient.natAbs, d.exponent⟩

/-- Whether a number is at most another. -/
def le (a b : Decimal) : Bool :=
  let e := commonExponent a b
  a.scaled e ≤ b.scaled e

/-- Whether a number is below another. -/
def lt (a b : Decimal) : Bool := !le b a

theorem digitCount_pos (d : Decimal) : 0 < d.digitCount := Numeral.length_pos _

/-- The coefficient lies below the power of ten that its digits allow. -/
theorem natAbs_coefficient_lt (d : Decimal) : d.coefficient.natAbs < 10 ^ d.digitCount :=
  Numeral.lt_pow_length _

/-- The special cases of cutting a fraction off are none: the division gives the same. -/
theorem truncate_eq_tdiv (d : Decimal) :
    d.truncate = (d.coefficient * 10 ^ d.exponent.toNat).tdiv (10 ^ (-d.exponent).toNat) := by
  unfold truncate
  split
  · next h =>
    rw [Bool.or_eq_true, isZero, beq_iff_eq, decide_eq_true_eq] at h
    rcases h with h | h
    · simp [h]
    · have hc := natAbs_coefficient_lt d
      have he : d.exponent.toNat = 0 := by unfold leadingExponent at h; omega
      have hle : d.digitCount ≤ (-d.exponent).toNat := by unfold leadingExponent at h; omega
      have hlt : d.coefficient.natAbs < 10 ^ (-d.exponent).toNat :=
        Nat.lt_of_lt_of_le hc (Nat.pow_le_pow_right (by decide) hle)
      have h0 : (d.coefficient.tdiv (10 ^ (-d.exponent).toNat)).natAbs = 0 := by
        rw [Int.natAbs_tdiv, Int.natAbs_pow]
        exact Nat.div_eq_of_lt hlt
      rw [he, Int.pow_zero, Int.mul_one]
      omega
  · rfl

/-- A coefficient is scaled by a power of ten. -/
theorem scaled_eq_mul (e : Int) (d : Decimal) :
    d.scaled e = d.coefficient * 10 ^ (d.exponent - e).toNat := by
  by_cases h : d.coefficient = 0 <;> simp [scaled, h]

/-- At its own exponent a number has its own coefficient. -/
@[simp] theorem scaled_exponent (d : Decimal) : d.scaled d.exponent = d.coefficient := by
  simp [scaled_eq_mul]

end Decimal

end LineShell
