import LineShell.Decimal.Precision
import Mathlib.Algebra.Order.Field.Rat
import Mathlib.Data.Rat.Floor
import Mathlib.Tactic.FieldSimp
import Mathlib.Tactic.Linarith
import Mathlib.Tactic.Positivity
import Mathlib.Tactic.Ring

/-!
# Values of decimals

A decimal stands for a rational number, and many decimals stand for the same one. What an operation
gives is said of these numbers: sums, differences, products and powers of decimals stand for those of
the numbers (`toRat_add`, `toRat_sub`, `toRat_mul`, `toRat_pow`), and comparing decimals compares the
numbers (`le_iff_toRat_le`).

A whole number may have places behind the point. It is known for what it is nevertheless, and a cut to
leading digits cuts off the zeros in these places only (`toRat_roundDigits_of_toRat`). The remainder
goes with the quotient cut toward zero (`wholePart`).

**Main statement** (`toRat_mod`): the remainder of two decimals stands for what is left of the dividend
when the divisor is taken away as many times as the whole part of the quotient says (`leftOver`). So it
is smaller than the divisor (`abs_leftOver_lt`), and is zero or has the sign of the dividend
(`leftOver_eq_zero_or_pos`).
-/

namespace LineShell

namespace Decimal

/-- The number that a decimal stands for. -/
def toRat (d : Decimal) : ℚ := d.coefficient * (10 : ℚ) ^ d.exponent

theorem ten_zpow_pos (e : Int) : (0 : ℚ) < 10 ^ e := zpow_pos (by norm_num) e

/-- A whole number stands for itself. -/
@[simp] theorem toRat_ofInt (n : Int) : (ofInt n).toRat = n := by
  simp [toRat, ofInt]

/-- A number is as many units of a lower place as its coefficient there says. -/
theorem toRat_eq_scaled {e : Int} {d : Decimal} (he : e ≤ d.exponent) :
    d.toRat = d.scaled e * (10 : ℚ) ^ e := by
  have hsplit : d.exponent = ((d.exponent - e).toNat : Int) + e := by omega
  rw [scaled_eq_mul, Int.cast_mul, Int.cast_pow, toRat]
  conv_lhs => rw [hsplit, zpow_add₀ (by norm_num), zpow_natCast, ← mul_assoc]
  norm_num

theorem toRat_eq_scaled_left (a b : Decimal) :
    a.toRat = a.scaled (commonExponent a b) * (10 : ℚ) ^ commonExponent a b :=
  toRat_eq_scaled (commonExponent_le_left a b)

theorem toRat_eq_scaled_right (a b : Decimal) :
    b.toRat = b.scaled (commonExponent a b) * (10 : ℚ) ^ commonExponent a b :=
  toRat_eq_scaled (commonExponent_le_right a b)

/-! ### Signs and order -/

/-- Only the coefficient zero stands for zero. -/
theorem toRat_eq_zero_iff {d : Decimal} : d.toRat = 0 ↔ d.coefficient = 0 := by
  simp [toRat, (ten_zpow_pos d.exponent).ne']

theorem isZero_iff_toRat_eq_zero {d : Decimal} : d.isZero = true ↔ d.toRat = 0 := by
  rw [toRat_eq_zero_iff, isZero, beq_iff_eq]

theorem isZero_eq_false_iff {d : Decimal} : d.isZero = false ↔ d.toRat ≠ 0 := by
  rw [← Bool.not_eq_true, isZero_iff_toRat_eq_zero]

/-- Comparing decimals compares the numbers. -/
theorem le_iff_toRat_le {a b : Decimal} : le a b = true ↔ a.toRat ≤ b.toRat := by
  rw [toRat_eq_scaled_left a b, toRat_eq_scaled_right a b,
    mul_le_mul_iff_of_pos_right (ten_zpow_pos _), Int.cast_le]
  simp only [le, decide_eq_true_eq]

theorem lt_iff_toRat_lt {a b : Decimal} : lt a b = true ↔ a.toRat < b.toRat := by
  rw [lt, Bool.not_eq_true', ← not_le, ← le_iff_toRat_le, Bool.not_eq_true]

theorem toRat_abs (d : Decimal) : d.abs.toRat = |d.toRat| := by
  rw [toRat, toRat, abs_mul, abs_of_pos (ten_zpow_pos d.exponent), abs, Int.cast_natCast,
    Nat.cast_natAbs, Int.cast_abs]

/-- A number other than zero is at least the power of ten of its leading digit. -/
theorem zpow_leadingExponent_le {d : Decimal} (h : d.toRat ≠ 0) :
    (10 : ℚ) ^ d.leadingExponent ≤ |d.toRat| := by
  have hpos := digitCount_pos d
  have hnonzero : d.coefficient.natAbs ≠ 0 := by
    rw [ne_eq, Int.natAbs_eq_zero, ← toRat_eq_zero_iff]
    exact h
  have hlead : (10 : ℚ) ^ (d.digitCount - 1) ≤ d.coefficient.natAbs := by
    exact_mod_cast Numeral.pow_length_sub_one_le hnonzero
  have hsplit : d.leadingExponent = ((d.digitCount - 1 : Nat) : Int) + d.exponent := by
    rw [leadingExponent_eq]
    omega
  rw [hsplit, zpow_add₀ (by norm_num), zpow_natCast, ← toRat_abs]
  exact mul_le_mul_of_nonneg_right hlead (ten_zpow_pos d.exponent).le

/-! ### Operations -/

theorem toRat_add (a b : Decimal) : (a.add b).toRat = a.toRat + b.toRat := by
  rw [toRat_eq_scaled_left a b, toRat_eq_scaled_right a b, ← add_mul, ← Int.cast_add]
  rfl

theorem toRat_sub (a b : Decimal) : (a.sub b).toRat = a.toRat - b.toRat := by
  rw [toRat_eq_scaled_left a b, toRat_eq_scaled_right a b, ← sub_mul, ← Int.cast_sub]
  rfl

theorem toRat_mul (a b : Decimal) : (a.mul b).toRat = a.toRat * b.toRat := by
  rw [toRat, toRat, toRat, mul_mul_mul_comm, ← zpow_add₀ (by norm_num), ← Int.cast_mul]
  rfl

theorem toRat_pow (a : Decimal) (n : Nat) : (a.pow n).toRat = a.toRat ^ n := by
  rw [toRat, toRat, mul_pow, ← zpow_natCast ((10 : ℚ) ^ a.exponent), ← zpow_mul, ← Int.cast_pow]
  rfl

/-- A power has no positive exponent if its base has none. -/
theorem exponent_pow_nonpos {a : Decimal} (ha : a.exponent ≤ 0) (n : Nat) : (a.pow n).exponent ≤ 0 :=
  mul_nonpos_of_nonpos_of_nonneg ha (Int.natCast_nonneg n)

/-! ### Whole numbers and cuts -/

/-- A multiple of the divisor is divided without rounding. -/
theorem roundHalfEven_mul (k : Int) {d : Nat} (hd : 0 < d) : roundHalfEven (k * d) d = k := by
  have hd' : (d : Int) ≠ 0 := by omega
  rw [roundHalfEven, Int.mul_emod_left, Int.mul_ediv_cancel k hd', if_neg (by omega)]

/-- A cut to leading digits keeps the number if only zeros are cut off. -/
theorem toRat_roundDigits {k : Nat} {d : Decimal} {m : Int}
    (h : d.coefficient = m * 10 ^ (d.digitCount - k)) : (d.roundDigits k).toRat = d.toRat := by
  have hpow : (0 : Nat) < 10 ^ (d.digitCount - k) := Nat.pow_pos (by decide)
  have hround : roundHalfEven d.coefficient (10 ^ (d.digitCount - k)) = m := by
    conv_lhs => rw [h]
    exact_mod_cast roundHalfEven_mul m hpow
  have hcut : d.roundDigits k = ⟨m, d.exponent + (d.digitCount - k : Nat)⟩ := by
    rw [← hround]
    rfl
  rw [hcut, toRat, toRat, h, zpow_add₀ (by norm_num), zpow_natCast, Int.cast_mul, Int.cast_pow]
  push_cast
  ring

/-- A whole number with places behind the point has zeros there. -/
theorem coefficient_eq_mul_of_toRat {d : Decimal} {m : Int} (h : d.toRat = m)
    (he : d.exponent ≤ 0) : d.coefficient = m * 10 ^ (-d.exponent).toNat := by
  have hsplit : (10 : ℚ) ^ (-d.exponent).toNat * 10 ^ d.exponent = 1 := by
    rw [← zpow_natCast, ← zpow_add₀ (by norm_num), Int.toNat_of_nonneg (by omega), neg_add_cancel,
      zpow_zero]
  have hcast : (d.coefficient : ℚ) = (m * 10 ^ (-d.exponent).toNat : ℤ) := by
    rw [Int.cast_mul, Int.cast_pow, ← h, toRat, Int.cast_ofNat, mul_assoc, mul_comm (10 ^ d.exponent),
      hsplit, mul_one]
  exact_mod_cast hcast

/-- A whole number is cut to itself. -/
theorem truncate_of_toRat {d : Decimal} {m : Int} (h : d.toRat = m) : d.truncate = m := by
  rw [truncate_eq_tdiv]
  by_cases he : d.exponent ≤ 0
  · have hpow : (10 : Int) ^ (-d.exponent).toNat ≠ 0 := by positivity
    have hzero : d.exponent.toNat = 0 := by omega
    rw [hzero, pow_zero, mul_one, coefficient_eq_mul_of_toRat h he, Int.mul_tdiv_cancel _ hpow]
  · have hsplit : d.exponent = (d.exponent.toNat : Int) := by omega
    have hzero : (-d.exponent).toNat = 0 := by omega
    have hcast : ((d.coefficient * 10 ^ d.exponent.toNat : ℤ) : ℚ) = m := by
      rw [← h, toRat]
      conv_rhs => rw [hsplit, zpow_natCast]
      push_cast
      rfl
    rw [hzero, pow_zero, Int.tdiv_one]
    exact_mod_cast hcast

/-- A number of a magnitude below a power of ten has its leading digit below it. -/
theorem leadingExponent_lt_of_abs_lt {d : Decimal} (h0 : d.toRat ≠ 0) {k : Int}
    (h : |d.toRat| < (10 : ℚ) ^ k) : d.leadingExponent < k :=
  (zpow_lt_zpow_iff_right₀ (by norm_num)).mp (lt_of_le_of_lt (zpow_leadingExponent_le h0) h)

/-- A cut to enough leading digits keeps a whole number that is not too large, whatever its
representation: what is cut off are zeros behind the point. -/
theorem toRat_roundDigits_of_toRat {d : Decimal} {m : Int} (h : d.toRat = m) {k : Nat}
    (hm : m.natAbs < 10 ^ k) : (d.roundDigits k).toRat = m := by
  rw [← h]
  by_cases hzero : m = 0
  · have hc : d.coefficient = 0 := by rw [← toRat_eq_zero_iff, h, hzero, Int.cast_zero]
    exact toRat_roundDigits (m := 0) (by rw [hc, zero_mul])
  have hlead : d.leadingExponent < k := by
    refine leadingExponent_lt_of_abs_lt (by rw [h]; exact_mod_cast hzero) ?_
    rw [h, zpow_natCast, ← Int.cast_abs, Int.abs_eq_natAbs]
    exact_mod_cast hm
  rw [leadingExponent_eq] at hlead
  by_cases he : d.exponent ≤ 0
  · -- There are at least as many places behind the point as digits to be cut off.
    have hsplit : (-d.exponent).toNat =
        ((-d.exponent).toNat - (d.digitCount - k)) + (d.digitCount - k) := by omega
    refine toRat_roundDigits (m := m * 10 ^ ((-d.exponent).toNat - (d.digitCount - k))) ?_
    rw [mul_assoc, ← pow_add, ← hsplit]
    exact coefficient_eq_mul_of_toRat h he
  · rw [roundDigits_of_le (by omega)]

/-! ### Whole parts -/

/-- A number cut to a whole one, toward zero. -/
def wholePart (x : ℚ) : ℤ := if 0 ≤ x then ⌊x⌋ else ⌈x⌉

/-- Cutting a quotient by a natural number is a division toward zero. -/
theorem wholePart_div_natCast (m : ℤ) (n : ℕ) : wholePart (m / n) = m.tdiv n := by
  rcases Nat.eq_zero_or_pos n with rfl | hn
  · simp [wholePart]
  have hn' : (0 : ℚ) < n := by exact_mod_cast hn
  have hsign : (0 : ℚ) ≤ m / n ↔ 0 ≤ m := by rw [le_div_iff₀ hn', zero_mul, Int.cast_nonneg_iff]
  by_cases hm : 0 ≤ m
  · rw [wholePart, if_pos (hsign.mpr hm), Rat.floor_intCast_div_natCast,
      Int.tdiv_eq_ediv_of_nonneg hm]
  · rw [wholePart, if_neg (mt hsign.mp hm), Rat.ceil_intCast_div_natCast,
      ← Int.tdiv_eq_ediv_of_nonneg (by omega), Int.neg_tdiv, neg_neg]

/-- Cutting a quotient of integers is their division toward zero. -/
theorem wholePart_div (m n : ℤ) : wholePart (m / n) = m.tdiv n := by
  rcases Int.natAbs_eq n with h | h
  · rw [h, Int.cast_natCast, wholePart_div_natCast]
  · have hquotient : (m : ℚ) / ((-(n.natAbs : ℤ) : ℤ) : ℚ) = ((-m : ℤ) : ℚ) / n.natAbs := by
      rw [Int.cast_neg, Int.cast_neg, div_neg, neg_div, Int.cast_natCast]
    rw [h, hquotient, wholePart_div_natCast, Int.neg_tdiv, Int.tdiv_neg]

/-- What the whole part leaves is less than one, and on the side of zero on which the number is. -/
theorem sub_wholePart_bounds (x : ℚ) :
    (0 ≤ x ∧ 0 ≤ x - wholePart x ∧ x - wholePart x < 1) ∨
      (x < 0 ∧ x - wholePart x ≤ 0 ∧ -1 < x - wholePart x) := by
  unfold wholePart
  split
  · next h =>
    exact .inl ⟨h, by linarith [Int.floor_le x], by linarith [Int.lt_floor_add_one x]⟩
  · next h =>
    exact .inr ⟨by linarith, by linarith [Int.le_ceil x], by linarith [Int.ceil_lt_add_one x]⟩

/-! ### Remainders -/

/-- What is left of a number when another is taken away as many times as the whole part of their
quotient says. -/
def leftOver (x y : ℚ) : ℚ := x - y * wholePart (x / y)

/-- What is left of the number is the divisor times what is left of the quotient. -/
theorem leftOver_eq_mul {x y : ℚ} (hy : y ≠ 0) :
    leftOver x y = y * (x / y - wholePart (x / y)) := by
  rw [leftOver, mul_sub, mul_div_cancel₀ x hy]

/-- What is left is smaller than the divisor. -/
theorem abs_leftOver_lt {x y : ℚ} (hy : y ≠ 0) : |leftOver x y| < |y| := by
  have hlt : |x / y - wholePart (x / y)| < 1 := by
    rw [abs_lt]
    rcases sub_wholePart_bounds (x / y) with ⟨-, hlow, hhigh⟩ | ⟨-, hhigh, hlow⟩
    · exact ⟨by linarith, hhigh⟩
    · exact ⟨hlow, by linarith⟩
  rw [leftOver_eq_mul hy, abs_mul]
  exact mul_lt_of_lt_one_right (abs_pos.mpr hy) hlt

/-- What is left is zero or on the side of zero on which the number is. -/
theorem leftOver_eq_zero_or_pos {x y : ℚ} (hy : y ≠ 0) :
    leftOver x y = 0 ∨ 0 < leftOver x y * x := by
  by_cases hzero : leftOver x y = 0
  · exact .inl hzero
  have hx : x ≠ 0 := by
    rintro rfl
    simp [leftOver, wholePart] at hzero
  -- In units of the divisor both the number and what is left are on one side of zero.
  have hunits : leftOver x y * x = y ^ 2 * ((x / y - wholePart (x / y)) * (x / y)) := by
    rw [leftOver_eq_mul hy]
    field_simp
  have hside : 0 ≤ (x / y - wholePart (x / y)) * (x / y) := by
    rcases sub_wholePart_bounds (x / y) with ⟨hq, hleft, -⟩ | ⟨hq, hleft, -⟩
    · exact mul_nonneg hleft hq
    · exact mul_nonneg_of_nonpos_of_nonpos hleft hq.le
  refine .inr (lt_of_le_of_ne ?_ (mul_ne_zero hzero hx).symm)
  rw [hunits]
  exact mul_nonneg (sq_nonneg y) hside

/-- **The remainder of two decimals** is what is left of the dividend. -/
theorem toRat_mod (a b : Decimal) : (a.mod b).toRat = leftOver a.toRat b.toRat := by
  set e := commonExponent a b with he
  have hquotient : a.toRat / b.toRat = (a.scaled e : ℚ) / (b.scaled e : ℚ) := by
    rw [toRat_eq_scaled_left a b, toRat_eq_scaled_right a b, ← he,
      mul_div_mul_right _ _ (ten_zpow_pos e).ne']
  have hmod : (a.mod b).toRat = ((a.scaled e).tmod (b.scaled e) : ℤ) * (10 : ℚ) ^ e := by
    rw [mod_eq_tmod, toRat]
  rw [leftOver, hquotient, wholePart_div, hmod, Int.tmod_def, toRat_eq_scaled_left a b,
    toRat_eq_scaled_right a b, ← he, Int.cast_sub, Int.cast_mul]
  ring

end Decimal

end LineShell
