import LineShell.Proofs.Decimal.Nearest

/-!
# Numbers without digits below a place

A result has no digits below the lowest place that its precision leaves (`Decimal.lowestPlace`). What is
left of a number there is the number itself if it is a multiple of that place, and the nearest multiple
otherwise, of two the even one (`IsFitted`).

**Main statement** (`isFitted_placed`): this is what `Decimal.placed` makes of a number that has no more
digits than are asked for. If none of its digits stands below the lowest place, it is kept
(`IsFitted.toRat_eq`).
-/

namespace LineShell

namespace Decimal

/-- Whether a decimal is what a precision of `k` digits leaves of a number. -/
structure IsFitted (x : ℚ) (k : ℕ) (r : Decimal) : Prop where
  /-- It has no more digits than were asked for. -/
  digitCount_le : r.digitCount ≤ k
  /-- It is the number itself exactly if that has no digits below the lowest place. -/
  toRat_eq_iff : r.toRat = x ↔ ∃ m : ℤ, x = m * (10 : ℚ) ^ lowestPlace k
  /-- Otherwise it is the nearest number of units of that place. -/
  nearest_of_ne : r.toRat ≠ x → r.exponent = lowestPlace k ∧
    IsNearest ((10 : ℚ) ^ lowestPlace k) x r.coefficient

variable {k : ℕ} {d : Decimal}

/-- A number is a multiple of every place that is not above its last digit. -/
theorem exists_toRat_eq_mul {e : ℤ} (h : e ≤ d.exponent) : ∃ m : ℤ, d.toRat = m * (10 : ℚ) ^ e :=
  ⟨d.scaled e, toRat_eq_scaled h⟩

/-- **Nothing is lost** of a number without digits below the lowest place. -/
theorem IsFitted.toRat_eq {r : Decimal} (h : r.IsFitted d.toRat k) (hd : lowestPlace k ≤ d.exponent) :
    r.toRat = d.toRat :=
  h.toRat_eq_iff.mpr (exists_toRat_eq_mul hd)

/-- A number rounded at a place that is above its last digit is the nearest number of units. -/
theorem isNearest_roundAt {place : ℤ} (h : d.exponent ≤ place) :
    IsNearest ((10 : ℚ) ^ place) d.toRat (d.roundAt place).coefficient := by
  have hpow : 0 < 10 ^ (place - d.exponent).toNat := Nat.pow_pos (by decide)
  have hsplit : place = ((place - d.exponent).toNat : ℤ) + d.exponent := by omega
  have hten : ((10 : ℚ) ^ (place - d.exponent).toNat) ≠ 0 := by positivity
  have hvalue : d.toRat =
      d.coefficient / ((10 ^ (place - d.exponent).toNat : ℕ) : ℚ) * (10 : ℚ) ^ place := by
    conv_rhs => rw [hsplit, zpow_add₀ (by norm_num), zpow_natCast, ← mul_assoc]
    rw [← hsplit, Nat.cast_pow, Nat.cast_ofNat, div_mul_cancel₀ _ hten, toRat]
  rw [roundAt_eq, hvalue]
  exact isNearest_roundHalfEven (ten_zpow_pos place) d.coefficient hpow

/-- **What a precision leaves** of a number that has no more digits than are asked for. -/
theorem isFitted_placed (hk : d.digitCount ≤ k) : (d.placed k).IsFitted d.toRat k := by
  refine ⟨digitCount_placed_le hk, ⟨fun h => ?_, ?_⟩, fun hne => ?_⟩
  · rw [← h]
    exact exists_toRat_eq_mul (lowestPlace_le_exponent_placed k d)
  · rintro ⟨m, hm⟩
    by_cases hlow : lowestPlace k ≤ d.exponent
    · rw [placed_eq_self hlow]
    · have hnearest := isNearest_roundAt (Int.le_of_not_le hlow)
      rw [placed_of_lt (Int.not_le.mp hlow)]
      exact hnearest.eq_of_multiple hm
  · have hlow : d.exponent < lowestPlace k :=
      Int.not_le.mp fun hle => hne (by rw [placed_eq_self hle])
    rw [placed_of_lt hlow]
    exact ⟨rfl, isNearest_roundAt hlow.le⟩

/-- Zero needs no place. -/
theorem isFitted_zero (hk : 0 < k) : (ofInt 0).IsFitted 0 k := by
  have hzero : (ofInt 0).toRat = 0 := by rw [toRat_ofInt, Int.cast_zero]
  refine ⟨?_, iff_of_true hzero ⟨0, by rw [Int.cast_zero, zero_mul]⟩, fun hne => absurd hzero hne⟩
  have hone : (ofInt 0).digitCount = 1 := by decide
  rw [hone]
  exact hk

end Decimal

end LineShell
