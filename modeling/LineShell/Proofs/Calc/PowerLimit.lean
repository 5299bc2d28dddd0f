import LineShell.Proofs.Calc.Exactness
import LineShell.Proofs.Calc.Outcome
import LineShell.Proofs.Decimal.Notation

/-!
# The limit on powers

Whether a power is turned down as too long is decided before it is worked out, by a bound on its digits:
those of the base, so many times. The bound counts the digits of the coefficient, and it knows neither
the places behind the point nor the zeros at the end. So it is no measure of what the power takes in plain
notation. For whole numbers it is never too low, and too high by no more than one digit for each factor.
For others it can miss in both directions: a quotient carries zeros that its notation does not show, and a
small coefficient can stand far behind the point.

**Main statement** (`apply_pow_isTooLong_iff`): what is turned down, what the others come to, and exactly
where the bound and the plain notation disagree (`IsMisjudged`).
-/

namespace LineShell

namespace Calc

open Decimal

/-- The digits that a power takes in plain notation: those of the power of the coefficient, and those
that bring it to the point, but for the zeros at the end of the places. -/
def powerSize (a : Decimal) (n : Nat) : Nat :=
  max (a.pow n).digitCount ((-a.exponent).toNat * n + 1) - min (-a.exponent).toNat a.finalZeros * n

/-- Whether the bound misjudges a power: it turns down one that is short enough, or lets one pass that is
too long. -/
def IsMisjudged (a : Decimal) (n : Nat) : Prop :=
  (maxPowerDigits ≤ a.digitCount * n ∧ powerSize a n ≤ maxPowerDigits) ∨
    (a.digitCount * n < maxPowerDigits ∧ maxPowerDigits < powerSize a n)

instance (a : Decimal) (n : Nat) : Decidable (IsMisjudged a n) := inferInstanceAs (Decidable (_ ∨ _))

variable {a : Decimal} {n : Nat}

/-- The power of a whole number has no more digits than the bound says, and fewer by no more than one for
each factor. -/
theorem powerSize_bounds_of_whole (h0 : a.toRat ≠ 0) (ha : a.exponent = 0) (hn : 0 < n) :
    (a.digitCount - 1) * n < powerSize a n ∧ powerSize a n ≤ a.digitCount * n := by
  have hc : a.coefficient ≠ 0 := mt toRat_eq_zero_iff.mpr h0
  have hexponent : (a.pow n).exponent = 0 := by rw [pow, ha, Int.zero_mul]
  have hsize : powerSize a n = (a.pow n).digitCount :=
    (plainDigitCount_pow hc ha.le n).symm.trans
      (plainDigitCount_of_exponent_eq_zero (pow_ne_zero n hc) hexponent)
  rw [hsize]
  exact ⟨mul_lt_digitCount_pow hc n, digitCount_pow_le a hn⟩

/-- A power of a decimal without a positive exponent has this size, in any representation. -/
theorem plainDigitCount_eq_powerSize (h0 : a.toRat ≠ 0) (ha : a.exponent ≤ 0) {x : Decimal}
    (hx : x.exponent ≤ 0) (hvalue : x.toRat = a.toRat ^ n) : x.plainDigitCount = powerSize a n := by
  have hpow : x.toRat = (a.pow n).toRat := hvalue.trans (toRat_pow a n).symm
  rw [plainDigitCount_eq_of_toRat_eq hpow hx (exponent_pow_nonpos ha n),
    plainDigitCount_pow (mt toRat_eq_zero_iff.mpr h0) ha, powerSize]

/-- What is turned down: the digit that is asked for in addition counts. -/
theorem naturalPower_eq_error_iff (ha : a.exponent ≤ 0) (hn : 0 < n) :
    naturalPower a n = .error (.rejected .powerTooLong) ↔ maxPowerDigits ≤ a.digitCount * n := by
  have hbound : a.powerDigits n = a.digitCount * n + 1 := rfl
  by_cases hlong : maxPowerDigits < a.powerDigits n
  · exact iff_of_true (naturalPower_of_lt hlong) (by omega)
  · obtain ⟨r, hr, -⟩ := naturalPower_isFitted ha hn (Nat.le_of_not_lt hlong)
    rw [hr]
    exact iff_of_false (by simp) (by omega)

/-- No digits are lost of a power that is short in plain notation: the lowest place is too far behind the
point for that. -/
theorem toRat_eq_of_isFitted_of_short {x r : Decimal} {k : ℕ} (h : r.IsFitted x.toRat k)
    (h0 : x.toRat ≠ 0) (hx : x.exponent ≤ 0) (hshort : x.plainDigitCount ≤ maxPowerDigits) :
    r.toRat = x.toRat := by
  have hplace : lowestPlace k = minLeadingExponent - k + 1 := rfl
  have hbound : minLeadingExponent + 1 ≤ -(maxPowerDigits : ℤ) := by decide
  exact h.toRat_eq_iff.mpr
    (exists_toRat_eq_mul_of_plainDigitCount_le (mt toRat_eq_zero_iff.mpr h0) hx (by omega))

/-- **Which powers are turned down.** A power of a decimal other than zero, without a positive exponent,
with a whole exponent from one to the bound, is turned down as too long exactly when the digits of its
base, so many times, reach the limit. Otherwise it is what its digits leave of the exact power: that power
itself if no digit of it stands below the lowest place, as none does if it takes no more digits than the
limit in plain notation. So it is turned down exactly when the exact power takes more digits than the limit,
but for those that are misjudged. A whole power that is let pass is never too long; one that is turned down
has more than so many times the digits of its base without the leading one. -/
theorem apply_pow_isTooLong_iff {e x : Decimal} (h0 : a.toRat ≠ 0) (ha : a.exponent ≤ 0) (hn : 0 < n)
    (hmax : n ≤ maxExponent) (he : e.toRat = n) (hx : x.exponent ≤ 0)
    (hvalue : x.toRat = a.toRat ^ n) :
    (Operator.pow.apply a e = .error (.rejected .powerTooLong) ↔
        maxPowerDigits ≤ a.digitCount * n) ∧
      (a.digitCount * n < maxPowerDigits →
        ∃ r, Operator.pow.apply a e = .ok r ∧ r.IsFitted x.toRat (powerDigits a n) ∧
          (x.plainDigitCount ≤ maxPowerDigits →
            r.toRat = x.toRat ∧ r.plainDigitCount = x.plainDigitCount)) ∧
      ((Operator.pow.apply a e = .error (.rejected .powerTooLong) ↔
          maxPowerDigits < x.plainDigitCount) ↔ ¬ IsMisjudged a n) ∧
      (a.exponent = 0 → (a.digitCount - 1) * n < x.plainDigitCount ∧
        x.plainDigitCount ≤ a.digitCount * n) := by
  have happly : Operator.pow.apply a e = naturalPower a n := power_eq_naturalPower a hn hmax he
  have hsize := plainDigitCount_eq_powerSize h0 ha hx hvalue
  have hx0 : x.toRat ≠ 0 := by
    rw [hvalue]
    exact pow_ne_zero n h0
  rw [happly, naturalPower_eq_error_iff ha hn]
  refine ⟨Iff.rfl, fun hlt => ?_, ?_, fun hwhole => ?_⟩
  · have hbound : a.powerDigits n = a.digitCount * n + 1 := rfl
    obtain ⟨r, hr, hfitted⟩ := naturalPower_isFitted ha hn (n := n) (by omega)
    rw [← hvalue] at hfitted
    refine ⟨r, hr, hfitted, fun hshort => ?_⟩
    have hexact := toRat_eq_of_isFitted_of_short hfitted hx0 hx hshort
    exact ⟨hexact, plainDigitCount_eq_of_toRat_eq hexact (exponent_nonpos_of_naturalPower ha hr) hx⟩
  · rw [hsize]
    unfold IsMisjudged
    omega
  · rw [hsize]
    exact powerSize_bounds_of_whole h0 hwhole hn

/-- The first power is let pass and is shown with four digits, in whatever way it is represented. The
second is turned down, and would be too long. -/
theorem apply_pow_isTooLong_of_twelve_digits :
    (∃ r, Operator.pow.apply ⟨-15, -1⟩ ⟨30, -1⟩ = .ok r ∧ r.toRat = (⟨-33750, -4⟩ : Decimal).toRat ∧
        r.plainDigitCount = 4) ∧
      Operator.pow.apply ⟨987654321012, -3⟩ ⟨9000, -1⟩ = .error (.rejected .powerTooLong) ∧
      maxPowerDigits < ((⟨987654321012, -3⟩ : Decimal).pow 900).plainDigitCount := by
  constructor
  · have ha : (⟨-15, -1⟩ : Decimal).toRat = -15 / 10 := by norm_num [toRat]
    have hx : (⟨-33750, -4⟩ : Decimal).toRat = (⟨-15, -1⟩ : Decimal).toRat ^ 3 := by
      rw [ha]
      norm_num [toRat]
    have he : (⟨30, -1⟩ : Decimal).toRat = (3 : Nat) := by norm_num [toRat]
    have hdigits : (⟨-33750, -4⟩ : Decimal).plainDigitCount = 4 := by decide +kernel
    obtain ⟨-, hpass, -⟩ := apply_pow_isTooLong_iff (by rw [ha]; norm_num) (by decide) (by decide)
      (by decide) he (by decide) hx
    rw [hdigits] at hpass
    obtain ⟨r, hr, -, hexact⟩ := hpass (by decide +kernel)
    exact ⟨r, hr, hexact (by decide)⟩
  · have ha : (⟨987654321012, -3⟩ : Decimal).toRat ≠ 0 := by norm_num [toRat]
    have he : (⟨9000, -1⟩ : Decimal).toRat = (900 : Nat) := by norm_num [toRat]
    have hx : ((⟨987654321012, -3⟩ : Decimal).pow 900).toRat = (⟨987654321012, -3⟩ : Decimal).toRat ^ 900 :=
      toRat_pow _ 900
    obtain ⟨hrefused, -, hright, -⟩ := apply_pow_isTooLong_iff ha (by decide) (by decide) (by decide) he
      (by decide) hx
    have herror := hrefused.mpr (by decide +kernel)
    have hjudged : ¬ IsMisjudged ⟨987654321012, -3⟩ 900 := by decide +kernel
    exact ⟨herror, (hright.mpr hjudged).mp herror⟩

/-- The bound misjudges powers that expressions ask for. The first two are turned down: one has as many
digits as may be and no more, and the other is a power of one half, which is short, but the half is a
quotient with all its places. The third is let pass, for the coefficient of its base has one digit, and is
shown with five times the digits that may be, if there is room for them. -/
theorem evaluate_of_misjudged :
    (∀ room, evaluate room ["9999999999", "^", "1000"] = .error (.rejected .powerTooLong)) ∧
      (ofInt (9999999999 ^ 1000)).plainDigitCount = maxPowerDigits ∧
      (∀ room, evaluate room ["2", "^", "-1", "^", "250"] = .error (.rejected .powerTooLong)) ∧
      (⟨5 ^ 250, -250⟩ : Decimal).plainDigitCount = 251 ∧
      (∀ room, (⟨1, -50000⟩ : Decimal).hasRoom room = true →
        evaluate room ["10", "^", "-50", "^", "1000"] =
          .ok s!"10 ** -50 ** 1000 = {(⟨1, -50000⟩ : Decimal).plain}") ∧
      (⟨1, -50000⟩ : Decimal).plainDigitCount = 50001 := by
  have hnines : calculate ["9999999999", "^", "1000"] = .error (.rejected .powerTooLong) := by
    decide +kernel
  have hhalf : calculate ["2", "^", "-1", "^", "250"] = .error (.rejected .powerTooLong) := by
    decide +kernel
  have hfar : calculate ["10", "^", "-50", "^", "1000"] = .ok ("10 ** -50 ** 1000", ⟨1, -50000⟩) := by
    decide +kernel
  refine ⟨fun room => ?_, ?_, fun room => ?_, ?_, fun room hroom => ?_, ?_⟩
  · rw [evaluate, hnines]
    rfl
  · rw [plainDigitCount_of_exponent_eq_zero (by decide +kernel) rfl]
    decide +kernel
  · rw [evaluate, hhalf]
    rfl
  · rw [plainDigitCount_of_nonpos (by decide +kernel) (by decide)]
    decide +kernel
  · rw [evaluate, hfar]
    exact answerLine_of_hasRoom hroom _
  · rw [plainDigitCount_of_nonpos (by decide) (by decide)]
    decide +kernel

end Calc

end LineShell
