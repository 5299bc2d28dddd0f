import LineShell.Proofs.Calc.Exactness
import LineShell.Proofs.Decimal.Nearest

/-!
# Rounded quotients

A quotient keeps `quotientPlaces` places. It is the exact quotient rounded once: the nearest multiple of
the last place, and of two the even one (`IsRounded`). What has no more places than that is exact
(`IsRounded.toRat_eq_of_multiple`), and what is rounded is determined (`IsRounded.unique`).

A power with a negative exponent is the quotient of one and the exact power, so it is rounded once as
well.

**Main statement** (`apply_isRounded`): when there is a quotient, or a power with a negative exponent, and
which decimal it is.
-/

namespace LineShell

namespace Calc

open Decimal

/-- The unit of the last place that quotients keep. -/
def lastPlace : ℚ := (10 : ℚ) ^ (-quotientPlaces : ℤ)

/-- Whether a decimal is a number rounded to the places that quotients keep: as many units of the last
place as are nearest to the number, and of two that are just as near the even one. -/
structure IsRounded (x : ℚ) (r : Decimal) : Prop where
  /-- Its last digit stands at the last place. -/
  exponent_eq : r.exponent = -quotientPlaces
  /-- So many units are nearest. -/
  nearest : IsNearest lastPlace x r.coefficient

theorem lastPlace_pos : 0 < lastPlace := ten_zpow_pos _

namespace IsRounded

variable {x : ℚ} {r s : Decimal}

/-- It is a multiple of the last place. -/
theorem toRat_eq (h : IsRounded x r) : r.toRat = r.coefficient * lastPlace := by
  rw [toRat, h.exponent_eq, lastPlace]

/-- A number without more places is not changed. -/
theorem toRat_eq_of_multiple (h : IsRounded x r) {m : ℤ} (hm : x = m * lastPlace) : r.toRat = x := by
  rw [h.toRat_eq]
  exact h.nearest.eq_of_multiple hm

/-- There is only one way to round. -/
theorem unique (hr : IsRounded x r) (hs : IsRounded x s) : r = s := by
  obtain ⟨c, e⟩ := r
  obtain ⟨c', e'⟩ := s
  obtain rfl : c = c' := hr.nearest.unique lastPlace_pos hs.nearest
  obtain rfl : e = e' := hr.exponent_eq.trans hs.exponent_eq.symm
  rfl

end IsRounded

/-! ### Quotients -/

/-- The coefficient that is worked out rounds the exact quotient. -/
theorem isRounded_quotient (a : Decimal) {b : Decimal} (hb : b.toRat ≠ 0) :
    IsRounded (a.toRat / b.toRat) (Decimal.quotient quotientPlaces a b) :=
  ⟨rfl, isNearest_quotientCoefficient quotientPlaces a hb⟩

/-- **A quotient** is the exact one, rounded, unless it meets a number that is too long. -/
theorem quotient_eq_ok_iff {a b r : Decimal} (hb : b.toRat ≠ 0) :
    quotient a b = .ok r ↔ ¬ HasLongQuotient a b ∧ IsRounded (a.toRat / b.toRat) r := by
  rcases quotient_cases a (isZero_eq_false_iff.mpr hb) with ⟨hlong, e, he⟩ | ⟨hshort, hv⟩
  · rw [he]
    exact iff_of_false (by simp) fun h => h.1 hlong
  · have hrounded := isRounded_quotient a hb
    rw [hv, Except.ok.injEq]
    constructor
    · rintro rfl
      exact ⟨hshort, hrounded⟩
    · exact fun h => hrounded.unique h.2

/-! ### Powers with negative exponents -/

/-- **A power with a negative exponent** is one divided by the exact power, rounded, unless that power is
turned down or stands too high, or the quotient meets a number that is too long. No digit of the power is
lost then: what is so close to zero has a quotient that is too long. -/
theorem power_neg_eq_ok_iff {a e r : Decimal} {n : ℕ} (hn : 0 < n) (hmax : n ≤ maxExponent)
    (he : e.toRat = -n) (ha : a.toRat ≠ 0) :
    power a e = .ok r ↔ a.powerDigits n ≤ maxPowerDigits ∧
      (a.pow n).leadingExponent ≤ maxLeadingExponent ∧
      ¬ HasLongQuotient (.ofInt 1) (a.pow n) ∧ IsRounded (1 / a.toRat ^ n) r := by
  have h0 : a.isZero = false := isZero_eq_false_iff.mpr ha
  have hpow : (a.pow n).toRat ≠ 0 := by
    rw [toRat_pow]
    exact pow_ne_zero n ha
  have hvalue : (ofInt 1).toRat / (a.pow n).toRat = 1 / a.toRat ^ n := by
    rw [toRat_ofInt, Int.cast_one, toRat_pow]
  rw [power_eq_power_ofInt a (m := -n) (by exact_mod_cast he) (by rwa [Int.natAbs_neg, Int.natAbs_natCast]),
    power_ofInt_neg hn hmax, if_neg (by simp [h0])]
  by_cases hlong : maxPowerDigits < a.powerDigits n
  · rw [bind_of_eq_error (naturalPower_of_lt hlong)]
    exact iff_of_false (by simp) fun h => absurd h.1 (Nat.not_le.mpr hlong)
  have hle : a.powerDigits n ≤ maxPowerDigits := Nat.le_of_not_lt hlong
  by_cases hhigh : maxLeadingExponent < (a.pow n).leadingExponent
  · rw [bind_of_eq_error (naturalPower_of_overflow h0 hle hhigh)]
    exact iff_of_false (by simp) fun h => absurd h.2.1 (Int.not_le.mpr hhigh)
  have hplaceable : (a.pow n).leadingExponent ≤ maxLeadingExponent := Int.not_lt.mp hhigh
  rw [bind_of_eq_ok (naturalPower_of_le h0 hle hplaceable), and_iff_right hle, and_iff_right hplaceable]
  by_cases hlow : lowestPlace (a.powerDigits n) ≤ (a.pow n).exponent
  · rw [placed_eq_self hlow, quotient_eq_ok_iff hpow, hvalue]
  · obtain ⟨hreciprocal, f, -, hf⟩ := quotient_one_placed_of_lt h0 (Int.not_le.mp hlow)
    rw [hf]
    exact iff_of_false (by simp) fun h => h.1 hreciprocal

/-- **Quotients are rounded once.** A division by a decimal other than zero comes to a decimal exactly
when it meets no number that is too long to be converted, and then it is the exact quotient rounded to a
multiple of the last place: to the nearest one, and of two to the even one. So it is the exact quotient
whenever that has no more places than are kept. A power of a decimal other than zero with a negative
whole exponent within the bound, unless it is turned down, stands too high or meets such a number, is one
divided by the exact power, rounded in the same way. -/
theorem apply_isRounded (a : Decimal) :
    (∀ b r : Decimal, b.toRat ≠ 0 →
      (Operator.div.apply a b = .ok r ↔
        ¬ HasLongQuotient a b ∧ IsRounded (a.toRat / b.toRat) r) ∧
      (Operator.div.apply a b = .ok r → (∃ m : ℤ, a.toRat / b.toRat = m * lastPlace) →
        r.toRat = a.toRat / b.toRat)) ∧
    ∀ (n : ℕ) (e r : Decimal), 0 < n → n ≤ maxExponent → e.toRat = -n → a.toRat ≠ 0 →
      (Operator.pow.apply a e = .ok r ↔ a.powerDigits n ≤ maxPowerDigits ∧
        (a.pow n).leadingExponent ≤ maxLeadingExponent ∧
        ¬ HasLongQuotient (.ofInt 1) (a.pow n) ∧ IsRounded (1 / a.toRat ^ n) r) := by
  refine ⟨fun b r hb => ?_, fun n e r hn hmax he ha => power_neg_eq_ok_iff hn hmax he ha⟩
  rw [Operator.apply, if_neg (by simp [isZero_eq_false_iff.mpr hb]), quotient_eq_ok_iff hb]
  refine ⟨Iff.rfl, fun h hmultiple => ?_⟩
  obtain ⟨m, hm⟩ := hmultiple
  exact h.2.toRat_eq_of_multiple hm

/-- A tie below zero, at the last place, goes to the even side. The exponent of the power is written with
a place behind the point. -/
theorem apply_isRounded_of_tie :
    Operator.div.apply ⟨-3, 0⟩ ⟨2, 50⟩ = .ok ⟨-2, -50⟩ ∧
      IsRounded (-3 / (2 * 10 ^ 50)) ⟨-2, -50⟩ ∧
      Operator.pow.apply ⟨-3, 0⟩ ⟨-20, -1⟩ =
        .ok ⟨11111111111111111111111111111111111111111111111111, -50⟩ ∧
      IsRounded (1 / (-3) ^ 2) ⟨11111111111111111111111111111111111111111111111111, -50⟩ := by
  have ha : (⟨-3, 0⟩ : Decimal).toRat = -3 := by norm_num [toRat]
  have hb : (⟨2, 50⟩ : Decimal).toRat = 2 * 10 ^ 50 := by norm_num [toRat]
  have he : (⟨-20, -1⟩ : Decimal).toRat = -(2 : ℕ) := by norm_num [toRat]
  have hquotient : Operator.div.apply ⟨-3, 0⟩ ⟨2, 50⟩ = .ok ⟨-2, -50⟩ := by decide +kernel
  have hpower : Operator.pow.apply ⟨-3, 0⟩ ⟨-20, -1⟩ =
      .ok ⟨11111111111111111111111111111111111111111111111111, -50⟩ := by decide +kernel
  obtain ⟨hdiv, hpow⟩ := apply_isRounded ⟨-3, 0⟩
  obtain ⟨-, htie⟩ := (hdiv ⟨2, 50⟩ _ (by rw [hb]; positivity)).1.mp hquotient
  obtain ⟨-, -, -, hreciprocal⟩ :=
    (hpow 2 ⟨-20, -1⟩ _ (by decide) (by decide) he (by rw [ha]; norm_num)).mp hpower
  rw [ha, hb] at htie
  rw [ha] at hreciprocal
  exact ⟨hquotient, htie, hpower, hreciprocal⟩

end Calc

end LineShell
