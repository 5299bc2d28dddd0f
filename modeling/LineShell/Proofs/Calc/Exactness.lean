import LineShell.Calc.Evaluate
import LineShell.Proofs.Calc.Application
import LineShell.Proofs.Decimal.Fitting

/-!
# How exact the operations are

Sums, differences, products, remainders and powers are worked out with as many digits as their operands
ask for. That is always enough: nothing is cut off to make a result fit the precision, and no quotient
inside a remainder lacks room. Of decimals without positive exponents no result stands too high either.

What is left are the two limits that no precision takes away. More digits may be asked for than can be,
as for the sum of a number with its last digit far behind the point and one with its first digit in front
of it. And a result may have digits below the lowest place; these are lost (`Decimal.IsFitted`). Both
befall numbers that expressions come to, for exponents add up without a bound (`calculate_of_far_power`).

**Main statement** (`apply_isWorkedOut`): what each of the operations comes to, for all decimals without
positive exponents, whatever their lengths, their signs and their places. The operands of an expression
are of that kind.
-/

namespace LineShell

namespace Calc

open Decimal

/-- Whether an operation that asks for `k` digits comes to what so many digits leave of a number, unless
so many cannot be asked for. -/
def IsWorkedOut (x : ℚ) (k : ℕ) (o : Except Failure Decimal) : Prop :=
  if maxPrecision < k then o = .error (.arithmetic .precision) else ∃ r, o = .ok r ∧ r.IsFitted x k

theorem isWorkedOut_of_le {x : ℚ} {k : ℕ} {o : Except Failure Decimal} (h : k ≤ maxPrecision) :
    IsWorkedOut x k o ↔ ∃ r, o = .ok r ∧ r.IsFitted x k := by
  rw [IsWorkedOut, if_neg (Nat.not_lt.mpr h)]

/-! ### Exponents in any representation -/

/-- **What an exponent comes to** that is a whole number within the bound, in whatever way it is
represented: it stands for itself. -/
theorem wholeExponent_of_toRat {b : Decimal} {m : Int} (h : b.toRat = m)
    (hm : m.natAbs ≤ maxExponent) : wholeExponent b = .ok m := by
  have hdigits : maxExponent < 10 ^ comparedDigits := by decide
  have habs : b.abs.toRat = (m.natAbs : Int) := by
    rw [toRat_abs, h, ← Int.cast_abs, Int.abs_eq_natAbs]
  have hcompared : (!b.isZero && maxComparedExponent <
      (b.roundDigits comparedDigits).leadingExponent) = false := by
    rw [Bool.and_eq_false_imp, Bool.not_eq_true', isZero_eq_false_iff]
    intro hb
    have hlead : b.leadingExponent < 4 := by
      refine leadingExponent_lt_of_abs_lt hb ?_
      rw [← toRat_abs, habs]
      have hbound : m.natAbs < 10 ^ 4 := Nat.lt_of_le_of_lt hm (by decide)
      exact_mod_cast hbound
    have hround := leadingExponent_roundDigits_le comparedDigits b
    have hmax : (4 : Int) ≤ maxComparedExponent := by decide
    exact decide_eq_false (by omega)
  have hsmall : exponentIsTooLarge b = false := by
    have hcut : (b.abs.roundDigits comparedDigits).toRat = (m.natAbs : Int) :=
      toRat_roundDigits_of_toRat habs (by omega)
    have hle : ¬ ((maxExponent : Int) : ℚ) < ((m.natAbs : Int) : ℚ) := by
      rw [Int.cast_lt]
      omega
    rw [exponentIsTooLarge, Bool.and_eq_false_imp]
    intro _
    rw [← Bool.not_eq_true, lt_iff_toRat_lt, toRat_ofInt, hcut]
    exact hle
  rw [wholeExponent, hcompared, hsmall, truncate_of_toRat h]
  rfl

/-- The representation of the exponent does not matter to a power. -/
theorem power_eq_power_ofInt (a : Decimal) {b : Decimal} {m : Int} (h : b.toRat = m)
    (hm : m.natAbs ≤ maxExponent) : power a b = power a (.ofInt m) := by
  rw [power, power, wholeExponent_of_toRat h hm, wholeExponent_of_le hm]

/-- A power with a whole exponent above zero is a natural one. -/
theorem power_eq_naturalPower (a : Decimal) {e : Decimal} {n : Nat} (hn : 0 < n) (hmax : n ≤ maxExponent)
    (he : e.toRat = n) : power a e = naturalPower a n := by
  rw [power_eq_power_ofInt a (m := n) (by exact_mod_cast he) (by rwa [Int.natAbs_natCast]),
    power_ofInt_natCast hn hmax]

/-! ### Operators -/

/-- An operation without a positive exponent, and with no more digits than it asks for, is worked out. -/
theorem isWorkedOut_withPrecision {k : ℕ} {d : Unit → Decimal} (hd : (d ()).digitCount ≤ k)
    (he : (d ()).exponent ≤ 0) :
    IsWorkedOut (d ()).toRat k ((withPrecision k d).mapError .arithmetic) := by
  by_cases h : maxPrecision < k
  · rw [IsWorkedOut, if_pos h, withPrecision_of_lt h]
    rfl
  · have hk : k ≤ maxPrecision := Nat.le_of_not_lt h
    rw [isWorkedOut_of_le hk, withPrecision_of_exponent_nonpos hd he hk]
    exact ⟨_, rfl, isFitted_placed hd⟩

variable {a b : Decimal}

theorem isWorkedOut_add (ha : a.exponent ≤ 0) :
    IsWorkedOut (a.toRat + b.toRat) (span a b) (Operator.add.apply a b) := by
  have he : (a.add b).exponent ≤ 0 := le_trans (commonExponent_le_left a b) ha
  rw [← toRat_add]
  exact isWorkedOut_withPrecision (d := fun _ => a.add b) (digitCount_add_le a b) he

theorem isWorkedOut_sub (ha : a.exponent ≤ 0) :
    IsWorkedOut (a.toRat - b.toRat) (span a b) (Operator.sub.apply a b) := by
  have he : (a.sub b).exponent ≤ 0 := le_trans (commonExponent_le_left a b) ha
  rw [← toRat_sub]
  exact isWorkedOut_withPrecision (d := fun _ => a.sub b) (digitCount_sub_le a b) he

theorem isWorkedOut_mul (ha : a.exponent ≤ 0) (hb : b.exponent ≤ 0) :
    IsWorkedOut (a.toRat * b.toRat) (productDigits a b) (Operator.mul.apply a b) := by
  have he : (a.mul b).exponent ≤ 0 := add_nonpos ha hb
  rw [← toRat_mul]
  exact isWorkedOut_withPrecision (d := fun _ => a.mul b) (digitCount_mul_le a b) he

theorem isWorkedOut_mod (ha : a.exponent ≤ 0) (hb : b.toRat ≠ 0) :
    IsWorkedOut (leftOver a.toRat b.toRat) (remainderDigits a b) (Operator.mod.apply a b) := by
  have hzero : b.isZero = false := isZero_eq_false_iff.mpr hb
  have hdigits := digitCount_mod_le a b (mt toRat_eq_zero_iff.mpr hb)
  rw [Operator.apply, if_neg (by simp [hzero])]
  by_cases h : maxPrecision < remainderDigits a b
  · rw [IsWorkedOut, if_pos h, remainder_of_lt h]
    rfl
  · have hk : remainderDigits a b ≤ maxPrecision := Nat.le_of_not_lt h
    rw [isWorkedOut_of_le hk, remainder_of_exponent_nonpos ha hzero hk, ← toRat_mod]
    exact ⟨_, rfl, isFitted_placed hdigits⟩

/-- A power that is not turned down comes to what its digits leave of it: so many can be asked for. -/
theorem naturalPower_isFitted (ha : a.exponent ≤ 0) {n : ℕ} (hn : 0 < n)
    (h : a.powerDigits n ≤ maxPowerDigits) :
    ∃ r, naturalPower a n = .ok r ∧ r.IsFitted (a.toRat ^ n) (a.powerDigits n) := by
  cases h0 : a.isZero with
  | true =>
      have hzero : a.toRat ^ n = 0 := by
        rw [isZero_iff_toRat_eq_zero.mp h0, zero_pow (Nat.ne_of_gt hn)]
      rw [hzero]
      exact ⟨_, naturalPower_of_isZero h0 h, isFitted_zero (Nat.succ_pos _)⟩
  | false =>
      rw [← toRat_pow]
      exact ⟨_, naturalPower_of_le h0 h (leadingExponent_pow_le ha h),
        isFitted_placed (digitCount_pow_le_powerDigits a n)⟩

/-- **What the operations come to.** Of decimals without positive exponents, the sum, the difference and
the product are what the digits that they ask for leave of the exact ones, unless so many cannot be asked
for; the remainder by a divisor other than zero is so of what is left of the dividend behind the whole part
of the quotient, and where nothing of that is lost it is smaller than the divisor and has the sign of the
dividend unless it is zero. A power with a whole exponent from one to the bound is so of the exact one,
unless it is turned down as too long. None of them lacks room, is cut to its leading digits or stands too
high. -/
theorem apply_isWorkedOut (ha : a.exponent ≤ 0) (hb : b.exponent ≤ 0) :
    IsWorkedOut (a.toRat + b.toRat) (span a b) (Operator.add.apply a b) ∧
    IsWorkedOut (a.toRat - b.toRat) (span a b) (Operator.sub.apply a b) ∧
    IsWorkedOut (a.toRat * b.toRat) (productDigits a b) (Operator.mul.apply a b) ∧
    (b.toRat ≠ 0 →
      IsWorkedOut (a.toRat - b.toRat * wholePart (a.toRat / b.toRat)) (remainderDigits a b)
        (Operator.mod.apply a b) ∧
      ∀ r, Operator.mod.apply a b = .ok r →
        r.toRat = a.toRat - b.toRat * wholePart (a.toRat / b.toRat) →
        |r.toRat| < |b.toRat| ∧ (r.toRat = 0 ∨ 0 < r.toRat * a.toRat)) ∧
    ∀ (n : ℕ) (e : Decimal), 0 < n → n ≤ maxExponent → e.toRat = n →
      if maxPowerDigits < a.powerDigits n then
        Operator.pow.apply a e = .error (.rejected .powerTooLong)
      else ∃ r, Operator.pow.apply a e = .ok r ∧ r.IsFitted (a.toRat ^ n) (a.powerDigits n) := by
  refine ⟨isWorkedOut_add ha, isWorkedOut_sub ha, isWorkedOut_mul ha hb,
    fun hzero => ⟨isWorkedOut_mod ha hzero, fun r _ hr => ?_⟩, fun n e hn hmax he => ?_⟩
  · rw [hr]
    exact ⟨abs_leftOver_lt hzero, leftOver_eq_zero_or_pos hzero⟩
  · have happly : Operator.pow.apply a e = naturalPower a n := power_eq_naturalPower a hn hmax he
    rw [happly]
    split
    · next hlong => exact naturalPower_of_lt hlong
    · next hshort => exact naturalPower_isFitted ha hn (Nat.le_of_not_lt hshort)

/-- The sum takes all the digits that it is given, the remainder goes with a whole quotient of three
digits, and the exponent of the power is written with a place behind the point. -/
theorem apply_isWorkedOut_of_carry :
    (∃ r, Operator.add.apply ⟨-999, -2⟩ ⟨-13, -3⟩ = .ok r ∧ r.toRat = -10003 / 1000 ∧ r.digitCount ≤ 5) ∧
    (∃ r, Operator.mod.apply ⟨-999, -2⟩ ⟨-13, -3⟩ = .ok r ∧ r.toRat = -6 / 1000 ∧
      |r.toRat| < 13 / 1000) ∧
    ∃ r, Operator.pow.apply ⟨-999, -2⟩ ⟨30, -1⟩ = .ok r ∧ r.toRat = -997002999 / 1000000 := by
  have ha : (⟨-999, -2⟩ : Decimal).toRat = -999 / 100 := by norm_num [toRat]
  have hb : (⟨-13, -3⟩ : Decimal).toRat = -13 / 1000 := by norm_num [toRat]
  have he : (⟨30, -1⟩ : Decimal).toRat = (3 : ℕ) := by norm_num [toRat]
  obtain ⟨hsum, -, -, hmod, hpow⟩ :=
    apply_isWorkedOut (a := ⟨-999, -2⟩) (b := ⟨-13, -3⟩) (by decide) (by decide)
  have hsumDigits : span ⟨-999, -2⟩ ⟨-13, -3⟩ = 5 := by decide +kernel
  have hwhole : wholePart (-999 / 100 / (-13 / 1000)) = 768 := by
    have hquotient : (-999 / 100 / (-13 / 1000) : ℚ) = ((9990 : ℤ) : ℚ) / ((13 : ℤ) : ℚ) := by
      norm_num
    rw [hquotient, wholePart_div]
    rfl
  refine ⟨?_, ?_, ?_⟩
  · have hvalue : (⟨-10003, -3⟩ : Decimal).toRat = -999 / 100 + -13 / 1000 := by norm_num [toRat]
    rw [ha, hb, hsumDigits, isWorkedOut_of_le (by decide), ← hvalue] at hsum
    obtain ⟨r, hr, hfitted⟩ := hsum
    exact ⟨r, hr, (hfitted.toRat_eq (by decide)).trans (by norm_num [toRat]), hfitted.digitCount_le⟩
  · obtain ⟨hworked, hsmaller⟩ := hmod (by rw [hb]; norm_num)
    have hvalue : (⟨-6, -3⟩ : Decimal).toRat = -999 / 100 - -13 / 1000 * (768 : ℤ) := by
      norm_num [toRat]
    have hdivisor : |(-13 / 1000 : ℚ)| = 13 / 1000 := by rw [abs_of_neg] <;> norm_num
    rw [ha, hb, hwhole, isWorkedOut_of_le (by decide +kernel), ← hvalue] at hworked
    rw [ha, hb, hwhole, ← hvalue, hdivisor] at hsmaller
    obtain ⟨r, hr, hfitted⟩ := hworked
    have hexact := hfitted.toRat_eq (by decide +kernel)
    exact ⟨r, hr, hexact.trans (by norm_num [toRat]), (hsmaller r hr hexact).1⟩
  · have hvalue : (⟨-997002999, -6⟩ : Decimal).toRat = (-999 / 100) ^ 3 := by norm_num [toRat]
    have hworked := hpow 3 ⟨30, -1⟩ (by decide) (by decide) he
    rw [if_neg (by decide +kernel), ha, ← hvalue] at hworked
    obtain ⟨r, hr, hfitted⟩ := hworked
    exact ⟨r, hr, (hfitted.toRat_eq (by decide +kernel)).trans (by norm_num [toRat])⟩

/-- The words of `10 ^ -50 ^ 1000 ^ 1000 ^ 1000 ^ 1000 ^ 1000`, which is a power of ten with its only digit
far behind the point. -/
def farPower : List String :=
  ["10", "^", "-50", "^", "1000", "^", "1000", "^", "1000", "^", "1000", "^", "1000"]

/-- Its power with exponent twenty has its digit just above the lowest place. Nothing can be added to that,
not even zero, nor to zero with its digit there. With exponent one thousand the digit would stand below the
lowest place, and the power is zero. -/
theorem calculate_of_far_power :
    (calculate farPower).map (·.2) = .ok ⟨1, -50000000000000000⟩ ∧
      Operator.pow.apply ⟨1, -50000000000000000⟩ (.ofInt 20) = .ok ⟨1, -1000000000000000000⟩ ∧
      Operator.add.apply ⟨1, -1000000000000000000⟩ (.ofInt 0) = .error (.arithmetic .precision) ∧
      (∀ room, evaluate room (farPower ++ ["^", "20", "*", "0", "+", "0"]) =
        .error (.arithmetic .precision)) ∧
      Operator.pow.apply ⟨1, -50000000000000000⟩ (.ofInt 1000) = .ok ⟨0, -1000000000000000999⟩ ∧
      (⟨1, -50000000000000000⟩ : Decimal).toRat ^ 1000 ≠ (⟨0, -1000000000000000999⟩ : Decimal).toRat := by
  have hcalculate : calculate (farPower ++ ["^", "20", "*", "0", "+", "0"]) =
      .error (.arithmetic .precision) := by decide +kernel
  refine ⟨by decide +kernel, by decide +kernel, by decide +kernel, fun room => ?_, by decide +kernel, ?_⟩
  · rw [evaluate, hcalculate]
    rfl
  · have hbase : (⟨1, -50000000000000000⟩ : Decimal).toRat ≠ 0 := mt toRat_eq_zero_iff.mp (by decide)
    have hzero : (⟨0, -1000000000000000999⟩ : Decimal).toRat = 0 := toRat_eq_zero_iff.mpr rfl
    rw [hzero]
    exact pow_ne_zero 1000 hbase

end Calc

end LineShell
