import LineShell.Decimal.Rounding

/-!
# Limits of decimals

The leading digit of a decimal stands no higher than `maxLeadingExponent`. It may stand lower than
`minLeadingExponent`, but then there are fewer digits behind it: with a precision of `k` digits no
digit stands below `lowestPlace k`.

An operation asks for a precision, which has a bound of its own (`checkPrecision`), and its exact result
is fitted to it (`fit`): cut to so many leading digits, or to the lowest place if that takes more of
them away, down to zero. What stands too high is a signal. Nothing is told when digits are lost.

Main statements: `fit_eq_ok` (a number that is short enough and not too high loses the digits below the
lowest place), `placed_eq_self` (if it has any) and `fit_of_overflow`.
-/

namespace LineShell

namespace Decimal

/-- Why an operation on decimals has no result. -/
inductive Signal where
  /-- More digits are asked for than can be. -/
  | precision
  /-- The leading digit stands too high. -/
  | overflow
  /-- The digits that are asked for do not suffice for the whole quotient inside a remainder. -/
  | impossible
deriving DecidableEq, Repr

/-- The wording of a signal. -/
def Signal.message : Signal → String
  | precision => "valid range for prec is [1, MAX_PREC]"
  | overflow => "[<class 'decimal.Overflow'>]"
  | impossible => "[<class 'decimal.DivisionImpossible'>]"

/-- The most digits that can be asked for. -/
def maxPrecision : Nat := 999999999999999999

/-- The highest power of ten at which a leading digit may stand. -/
def maxLeadingExponent : Int := 999999999999999999

/-- The lowest power of ten at which a leading digit stands with all digits behind it. -/
def minLeadingExponent : Int := -999999999999999999

/-- The lowest power of ten at which a digit may stand, with a precision of so many digits. -/
def lowestPlace (k : Nat) : Int := minLeadingExponent - k + 1

/-- The lowest power of ten at which a last digit may stand at all. -/
def minExponent : Int := lowestPlace maxPrecision

/-- So many digits can be asked for. -/
def checkPrecision (k : Nat) : Except Signal Unit :=
  if maxPrecision < k then .error .precision else .ok ()

/-- The number rounded at a place, which is not below its last digit, half to even. What has no digit
at the place or next to it is zero there. -/
def roundAt (place : Int) (d : Decimal) : Decimal :=
  ⟨if d.digitCount < place - d.exponent then 0
    else roundHalfEven d.coefficient (10 ^ (place - d.exponent).toNat), place⟩

/-- The number with a precision of `k` digits, within the limits. The last digit of zero stands at the
nearest place at which one may stand. -/
def fit (k : Nat) (d : Decimal) : Except Signal Decimal :=
  if d.isZero then .ok ⟨0, max (lowestPlace k) (min d.exponent maxLeadingExponent)⟩
  else if maxLeadingExponent < (d.roundDigits k).leadingExponent then .error .overflow
  else if d.leadingExponent < minLeadingExponent && d.exponent < lowestPlace k then
    .ok (d.roundAt (lowestPlace k))
  else .ok (d.roundDigits k)

/-- The number without digits below the lowest place. -/
def placed (k : Nat) (d : Decimal) : Decimal :=
  if lowestPlace k ≤ d.exponent then d else d.roundAt (lowestPlace k)

/-! ### Rounding at a place -/

theorem leadingExponent_eq (d : Decimal) : d.leadingExponent = d.exponent + d.digitCount - 1 := rfl

/-- Less than a half is rounded to zero. -/
theorem roundHalfEven_eq_zero {n : Int} {d : Nat} (h : 2 * n.natAbs < d) : roundHalfEven n d = 0 := by
  have herror := roundHalfEven_error_le n (d := d) (by omega)
  have hprod : (d * roundHalfEven n d : Int).natAbs = d * (roundHalfEven n d).natAbs := by
    rw [Int.natAbs_mul, Int.natAbs_natCast]
  have hsmall : d * (roundHalfEven n d).natAbs < d * 1 := by omega
  have hone := Nat.lt_of_mul_lt_mul_left hsmall
  omega

/-- The special case of rounding at a place is none: the division gives the same. -/
theorem roundAt_eq (place : Int) (d : Decimal) :
    d.roundAt place = ⟨roundHalfEven d.coefficient (10 ^ (place - d.exponent).toNat), place⟩ := by
  unfold roundAt
  split
  · next h =>
    have hpow : 10 ^ (d.digitCount + 1) ≤ 10 ^ (place - d.exponent).toNat :=
      Nat.pow_le_pow_right (by decide) (by omega)
    have hlt := natAbs_coefficient_lt d
    rw [Nat.pow_succ] at hpow
    rw [roundHalfEven_eq_zero (by omega)]
  · rfl

/-! ### What fitting does -/

variable {k : Nat} {d : Decimal}

/-- A number without digits below the lowest place stays as it is. -/
theorem placed_eq_self (h : lowestPlace k ≤ d.exponent) : d.placed k = d := if_pos h

theorem placed_of_lt (h : d.exponent < lowestPlace k) : d.placed k = d.roundAt (lowestPlace k) :=
  if_neg (Int.not_le.mpr h)

/-- No digit is left below the lowest place. -/
theorem lowestPlace_le_exponent_placed (k : Nat) (d : Decimal) : lowestPlace k ≤ (d.placed k).exponent := by
  unfold placed
  split
  · assumption
  · exact Int.le_refl _

theorem lowestPlace_nonpos (k : Nat) : lowestPlace k ≤ 0 := by
  unfold lowestPlace minLeadingExponent
  omega

/-- No positive exponent comes of one that is not. -/
theorem exponent_placed_nonpos (h : d.exponent ≤ 0) : (d.placed k).exponent ≤ 0 := by
  unfold placed
  split
  · exact h
  · exact lowestPlace_nonpos k

/-- No digits are won. -/
theorem digitCount_placed_le (hk : d.digitCount ≤ k) : (d.placed k).digitCount ≤ k := by
  unfold placed
  split
  · exact hk
  · have hpos := digitCount_pos d
    have hcoefficient := natAbs_coefficient_lt d
    rw [roundAt_eq]
    refine (Numeral.length_le_iff (by omega)).mpr ?_
    have hlt : d.coefficient.natAbs < 10 ^ (lowestPlace k - d.exponent).toNat * 10 ^ (k - 1) := by
      rw [← Nat.pow_add]
      exact Nat.lt_of_lt_of_le hcoefficient (Nat.pow_le_pow_right (by decide) (by omega))
    exact Nat.lt_of_le_of_lt (natAbs_roundHalfEven_le (Nat.pow_pos (by decide)) hlt)
      (Nat.pow_lt_pow_right (by decide) (by omega))

theorem checkPrecision_of_le (h : k ≤ maxPrecision) : checkPrecision k = .ok () :=
  if_neg (Nat.not_lt.mpr h)

theorem checkPrecision_of_lt (h : maxPrecision < k) : checkPrecision k = .error .precision :=
  if_pos h

/-- **A number that is short enough** and does not stand too high loses the digits below the lowest
place. -/
theorem fit_eq_ok (hk : d.digitCount ≤ k) (hmax : d.leadingExponent ≤ maxLeadingExponent) :
    d.fit k = .ok (d.placed k) := by
  have hlead := leadingExponent_eq d
  have hpos := digitCount_pos d
  have hplace : lowestPlace k = minLeadingExponent - k + 1 := rfl
  have hnonpos := lowestPlace_nonpos k
  have hbound : 0 ≤ maxLeadingExponent := by decide
  rw [fit, roundDigits_of_le hk]
  by_cases hzero : d.isZero = true
  · have hc : d.coefficient = 0 := by simpa [isZero] using hzero
    rw [if_pos hzero]
    by_cases hlow : lowestPlace k ≤ d.exponent
    · have hclamp : max (lowestPlace k) (min d.exponent maxLeadingExponent) = d.exponent := by omega
      rw [placed_eq_self hlow, hclamp, ← hc]
    · have hclamp : max (lowestPlace k) (min d.exponent maxLeadingExponent) = lowestPlace k := by omega
      rw [placed_of_lt (by omega), hclamp, roundAt_eq, hc, roundHalfEven_eq_zero (Nat.pow_pos (by decide))]
  · rw [if_neg hzero, if_neg (by omega)]
    by_cases hlow : lowestPlace k ≤ d.exponent
    · rw [if_neg (by simp; omega), placed_eq_self hlow]
    · rw [if_pos (by simp only [Bool.and_eq_true, decide_eq_true_eq]; omega), placed_of_lt (by omega)]

/-- **What stands too high** has no place. -/
theorem fit_of_overflow (hk : d.digitCount ≤ k) (h0 : d.isZero = false)
    (h : maxLeadingExponent < d.leadingExponent) : d.fit k = .error .overflow := by
  rw [fit, roundDigits_of_le hk, if_neg (by simp [h0]), if_pos h]

/-- A number without a positive exponent does not stand too high if its digits can be asked for. -/
theorem leadingExponent_le_of_exponent_nonpos (he : d.exponent ≤ 0) (hk : d.digitCount ≤ k)
    (hmax : k ≤ maxPrecision) : d.leadingExponent ≤ maxLeadingExponent := by
  have hbound : (maxPrecision : Int) ≤ maxLeadingExponent := by decide
  rw [leadingExponent_eq]
  omega

end Decimal

end LineShell
