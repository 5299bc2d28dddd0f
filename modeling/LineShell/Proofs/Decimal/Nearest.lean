import LineShell.Proofs.Decimal.Value

/-!
# Nearest multiples

A number is rounded to a multiple of a unit: to the nearest one, and of two that are just as near to the
even one. There is at most one such multiple (`IsNearest.unique`), and it is the number itself if that is
a multiple (`IsNearest.eq_of_multiple`).

A quotient of integers is rounded so by one division with remainder (`isNearest_roundHalfEven`).

**Main statement** (`isNearest_quotientCoefficient`): so is the quotient of two decimals, whatever their
signs and places. A power of ten on one side or the other makes it a quotient of integers, which is the
only one that is rounded.
-/

namespace LineShell

namespace Decimal

/-- Whether so many units are nearest to a number, and even if another number of units is just as
near. -/
structure IsNearest (unit x : ℚ) (q : ℤ) : Prop where
  /-- No other number of units is nearer. -/
  nearest : ∀ m : ℤ, |x - q * unit| ≤ |x - m * unit|
  /-- Of two the number is even. -/
  even_of_tie : ∀ m : ℤ, m ≠ q → |x - m * unit| = |x - q * unit| → q % 2 = 0

namespace IsNearest

variable {unit x : ℚ} {p q : ℤ}

/-- Two that are nearest are not far from each other: of two just as near, one unit towards the other is
nearer unless it is the other. -/
theorem lt_add_two (hunit : 0 < unit) (hp : IsNearest unit x p) (hq : IsNearest unit x q) :
    p < q + 2 := by
  refine lt_of_not_ge fun hfar => ?_
  have hsame := le_antisymm (hp.nearest q) (hq.nearest p)
  have hnext := hq.nearest (q + 1)
  have hgap : q * unit + 2 * unit ≤ p * unit := by
    rw [← add_mul]
    exact mul_le_mul_of_nonneg_right (by exact_mod_cast hfar) hunit.le
  rw [Int.cast_add, Int.cast_one, add_mul, one_mul] at hnext
  have hhalfway : x - p * unit = -(x - q * unit) :=
    (abs_eq_abs.mp hsame).resolve_left fun h => by linarith
  have hbehind : unit ≤ x - q * unit := by linarith
  rw [abs_of_nonneg (by linarith), abs_of_nonneg (by linarith)] at hnext
  linarith

/-- **There is only one** number of units that is nearest, and even if there is another. -/
theorem unique (hunit : 0 < unit) (hp : IsNearest unit x p) (hq : IsNearest unit x q) : p = q := by
  by_contra hne
  have hsame := le_antisymm (hp.nearest q) (hq.nearest p)
  have hpeven := hp.even_of_tie q (Ne.symm hne) hsame.symm
  have hqeven := hq.even_of_tie p hne hsame
  have hpq := hp.lt_add_two hunit hq
  have hqp := hq.lt_add_two hunit hp
  omega

/-- A multiple is rounded to itself. -/
theorem eq_of_multiple (hq : IsNearest unit x q) {m : ℤ} (hm : x = m * unit) : q * unit = x := by
  have hzero := hq.nearest m
  rw [hm, sub_self, abs_zero, abs_nonpos_iff, sub_eq_zero] at hzero
  rw [hm, hzero]

end IsNearest

/-! ### Quotients of integers -/

/-- How far a quotient is from a number of units. -/
theorem abs_div_mul_sub {unit : ℚ} (hunit : 0 < unit) (n m : ℤ) {d : ℕ} (hd : 0 < d) :
    |n / d * unit - m * unit| = (n - d * m).natAbs * (unit / d) := by
  have hd' : (0 : ℚ) < d := by exact_mod_cast hd
  have hdiff : n / d * unit - m * unit = (n - d * m : ℤ) * (unit / d) := by
    push_cast
    field_simp
  rw [hdiff, abs_mul, abs_of_pos (div_pos hunit hd'), ← Int.cast_abs, Int.abs_eq_natAbs,
    Int.cast_natCast]

/-- Another number of units than the rounded one leaves over at least what is missing in a whole one. -/
theorem le_natAbs_add_natAbs {n m : ℤ} {d : ℕ} (hm : m ≠ roundHalfEven n d) :
    d ≤ (n - d * roundHalfEven n d).natAbs + (n - d * m).natAbs := by
  have hgap : d ≤ (d * (roundHalfEven n d - m) : ℤ).natAbs := by
    rw [Int.natAbs_mul, Int.natAbs_natCast]
    exact Nat.le_mul_of_pos_right d (Int.natAbs_pos.mpr (sub_ne_zero.mpr hm.symm))
  rw [mul_sub] at hgap
  omega

/-- If what is left over is half of the divisor, then the remainder is. -/
theorem two_mul_emod_eq {n : ℤ} {d : ℕ} (hd : 0 < d)
    (h : 2 * (n - d * roundHalfEven n d).natAbs = d) : 2 * (n % d) = (d : ℤ) := by
  have hr := Int.emod_nonneg n (b := (d : ℤ)) (by omega)
  have hlt := Int.emod_lt_of_pos n (b := (d : ℤ)) (by omega)
  have hqr := Int.mul_ediv_add_emod n (d : ℤ)
  unfold roundHalfEven at h
  simp only [] at h
  split at h
  · rw [mul_add, mul_one] at h
    omega
  · omega

/-- **A rounded quotient of integers** is the nearest number of units. -/
theorem isNearest_roundHalfEven {unit : ℚ} (hunit : 0 < unit) (n : ℤ) {d : ℕ} (hd : 0 < d) :
    IsNearest unit (n / d * unit) (roundHalfEven n d) := by
  have herror := roundHalfEven_error_le n hd
  have hpart : (0 : ℚ) < unit / d := div_pos hunit (by exact_mod_cast hd)
  refine ⟨fun m => ?_, fun m hm htie => ?_⟩
  · rw [abs_div_mul_sub hunit n _ hd, abs_div_mul_sub hunit n _ hd]
    refine mul_le_mul_of_nonneg_right (Nat.cast_le.mpr ?_) hpart.le
    by_cases hm : m = roundHalfEven n d
    · rw [hm]
    · have hgap := le_natAbs_add_natAbs hm
      omega
  · rw [abs_div_mul_sub hunit n _ hd, abs_div_mul_sub hunit n _ hd,
      mul_left_inj' hpart.ne', Nat.cast_inj] at htie
    have hgap := le_natAbs_add_natAbs hm
    exact roundHalfEven_even_of_tie (two_mul_emod_eq hd (by omega))

/-! ### Quotients of decimals -/

/-- A power of ten is a quotient of two whole ones. -/
theorem ten_zpow_eq_div (e : ℤ) :
    (10 : ℚ) ^ e = (10 : ℚ) ^ e.toNat / (10 : ℚ) ^ (-e).toNat := by
  rw [eq_div_iff (by positivity), ← zpow_natCast, ← zpow_natCast, ← zpow_add₀ (by norm_num)]
  congr 1
  omega

/-- The sign of the divisor may be put before the dividend. -/
theorem div_eq_mul_sign_div (m : ℤ) {n : ℤ} (hn : n ≠ 0) :
    (m / n : ℚ) = (m * n.sign : ℤ) / (n.natAbs : ℚ) := by
  have hsign : (n.sign : ℚ) ≠ 0 := by exact_mod_cast mt Int.sign_eq_zero_iff_zero.mp hn
  have habs : (n.natAbs : ℚ) = n * n.sign := by
    rw [← Int.cast_natCast, ← Int.sign_mul_self, Int.cast_mul, mul_comm]
  rw [habs, Int.cast_mul, mul_div_mul_right _ _ hsign]

/-- **The quotient of two decimals is rounded to the nearest number of units** of the last place that is
kept. -/
theorem isNearest_quotientCoefficient (places : ℕ) (a : Decimal) {b : Decimal} (hb : b.toRat ≠ 0) :
    IsNearest ((10 : ℚ) ^ (-places : ℤ)) (a.toRat / b.toRat) (quotientCoefficient places a b) := by
  have hb0 : b.coefficient ≠ 0 := mt toRat_eq_zero_iff.mpr hb
  set shift := a.exponent - b.exponent + places with hshift
  set n := a.coefficient * b.coefficient.sign * 10 ^ shift.toNat with hn
  set d := b.coefficient.natAbs * 10 ^ (-shift).toNat with hd
  have hd0 : 0 < d := Nat.mul_pos (Int.natAbs_pos.mpr hb0) (Nat.pow_pos (by decide))
  have hratio : a.toRat / b.toRat = (n / d : ℚ) * (10 : ℚ) ^ (-places : ℤ) := by
    have hplace : (10 : ℚ) ^ (a.exponent - b.exponent) =
        (10 : ℚ) ^ shift.toNat / (10 : ℚ) ^ (-shift).toNat * (10 : ℚ) ^ (-places : ℤ) := by
      rw [← ten_zpow_eq_div, ← zpow_add₀ (by norm_num), hshift]
      congr 1
      ring
    calc a.toRat / b.toRat
        = a.coefficient / b.coefficient * (10 : ℚ) ^ (a.exponent - b.exponent) := by
          rw [toRat, toRat, mul_div_mul_comm, zpow_sub₀ (by norm_num)]
      _ = (a.coefficient * b.coefficient.sign : ℤ) / (b.coefficient.natAbs : ℚ) *
            ((10 : ℚ) ^ shift.toNat / (10 : ℚ) ^ (-shift).toNat * (10 : ℚ) ^ (-places : ℤ)) := by
          rw [div_eq_mul_sign_div _ hb0, hplace]
      _ = (n / d : ℚ) * (10 : ℚ) ^ (-places : ℤ) := by
          rw [hn, hd, ← mul_assoc, div_mul_div_comm]
          push_cast
          rfl
  rw [hratio]
  exact isNearest_roundHalfEven (ten_zpow_pos _) n hd0

end Decimal

end LineShell
