import LineShell.Decimal.Limits

/-!
# Working precision

Arithmetic that keeps only so many leading digits of a result. For every operation there is a
number of digits, known from the operands, that is always enough: a result has no more digits than
were asked for, and the quotient inside a remainder has room.

So results are not rounded, as long as so many digits can be asked for and the limits on places are
not in the way.

Main statements: `digitCount_add_le`, `digitCount_sub_le`, `digitCount_mul_le`, `digitCount_mod_le` and
`digitCount_pow_le_powerDigits` (the exact result has no more digits than are asked for), and
`sum_of_exponent_nonpos`, `difference_of_exponent_nonpos`, `product_of_exponent_nonpos`,
`remainder_of_exponent_nonpos` and `natPower_of_le` (so it only loses the digits below the lowest place).
-/

namespace LineShell

namespace Decimal

/-! ### Digits that are enough -/

/-- The digits from the highest leading digit of two numbers down to their lowest exponent, and two
more. -/
def span (a b : Decimal) : Nat :=
  (max a.leadingExponent b.leadingExponent - commonExponent a b + 2).toNat

/-- The digits that are enough for a product. -/
def productDigits (a b : Decimal) : Nat := a.digitCount + b.digitCount

/-- The digits that are enough for a power. -/
def powerDigits (a : Decimal) (n : Nat) : Nat := a.digitCount * n + 1

/-- The digits that are enough for a remainder and for the whole quotient inside it. -/
def remainderDigits (a b : Decimal) : Nat :=
  (max (a.leadingExponent - b.leadingExponent) 0).toNat + span a b + 1

/-- The whole quotient that leaves the remainder. -/
def wholeQuotient (a b : Decimal) : Int :=
  let e := commonExponent a b
  if isFarBelow a b then 0 else (a.scaled e).tdiv (b.scaled e)

/-! ### Operations -/

/-- A number with a precision of so many digits. It is not worked out if so many cannot be asked
for. -/
def withPrecision (k : Nat) (d : Unit → Decimal) : Except Signal Decimal := do
  checkPrecision k
  (d ()).fit k

/-- The sum, with the digits that are enough for it. -/
def sum (a b : Decimal) : Except Signal Decimal := withPrecision (span a b) fun _ => a.add b

/-- The difference, with the digits that are enough for it. -/
def difference (a b : Decimal) : Except Signal Decimal := withPrecision (span a b) fun _ => a.sub b

/-- The product, with the digits that are enough for it. -/
def product (a b : Decimal) : Except Signal Decimal :=
  withPrecision (productDigits a b) fun _ => a.mul b

/-- The power with an exponent above zero, with the digits that are enough for it. A power of zero has
no places. -/
def natPower (a : Decimal) (n : Nat) : Except Signal Decimal := do
  checkPrecision (powerDigits a n)
  if a.isZero then return .ofInt 0
  else (a.pow n).fit (powerDigits a n)

/-- The remainder, with the digits that are enough for it, which must suffice for the whole quotient
too. -/
def remainder (a b : Decimal) : Except Signal Decimal := do
  checkPrecision (remainderDigits a b)
  if remainderDigits a b < Numeral.length (wholeQuotient a b).natAbs then throw .impossible
  else (a.mod b).fit (remainderDigits a b)

/-! ### Numbers at a common exponent -/

/-- A coefficient at a lower exponent lies below the power of ten of its leading digit. -/
theorem natAbs_scaled_lt {d : Decimal} {e : Int} (he : e ≤ d.exponent) {k : Nat}
    (hk : d.leadingExponent - e < k) : (d.scaled e).natAbs < 10 ^ k := by
  have hpos := digitCount_pos d
  rw [leadingExponent_eq] at hk
  rw [scaled_eq_mul, Int.natAbs_mul, Int.natAbs_pow]
  calc d.coefficient.natAbs * 10 ^ (d.exponent - e).toNat
      < 10 ^ d.digitCount * 10 ^ (d.exponent - e).toNat :=
        Nat.mul_lt_mul_of_pos_right (natAbs_coefficient_lt d) (Nat.pow_pos (by decide))
    _ = 10 ^ (d.digitCount + (d.exponent - e).toNat) := (Nat.pow_add ..).symm
    _ ≤ 10 ^ k := Nat.pow_le_pow_right (by decide) (by omega)

theorem commonExponent_le_left (a b : Decimal) : commonExponent a b ≤ a.exponent :=
  Int.min_le_left ..

theorem commonExponent_le_right (a b : Decimal) : commonExponent a b ≤ b.exponent :=
  Int.min_le_right ..

/-- Two numbers at their common exponent lie below the power of ten that their span allows, but for
one digit. -/
theorem natAbs_scaled_lt_span (a b : Decimal) :
    ((a.scaled (commonExponent a b)).natAbs < 10 ^ (span a b - 1)) ∧
      ((b.scaled (commonExponent a b)).natAbs < 10 ^ (span a b - 1)) ∧ 2 ≤ span a b := by
  have ha := commonExponent_le_left a b
  have hb := commonExponent_le_right a b
  have hpa := digitCount_pos a
  have hpb := digitCount_pos b
  have hla := leadingExponent_eq a
  have hlb := leadingExponent_eq b
  have hs : (span a b : Int) = max a.leadingExponent b.leadingExponent - commonExponent a b + 2 := by
    unfold span
    omega
  refine ⟨natAbs_scaled_lt ha ?_, natAbs_scaled_lt hb ?_, ?_⟩ <;> omega

/-- A number whose coefficient lies below a power of ten is not rounded to that many digits. -/
theorem roundDigits_of_lt {d : Decimal} {k : Nat} (hk : 0 < k)
    (h : d.coefficient.natAbs < 10 ^ k) : d.roundDigits k = d :=
  roundDigits_of_le ((Numeral.length_le_iff hk).mpr h)

theorem two_mul_pow_sub_one_le {k : Nat} (hk : 0 < k) : 2 * 10 ^ (k - 1) ≤ 10 ^ k := by
  obtain ⟨m, rfl⟩ : ∃ m, k = m + 1 := ⟨k - 1, by omega⟩
  rw [Nat.add_sub_cancel, Nat.pow_succ]
  omega

/-- A number other than zero, at a lower exponent, is at least the power of ten of its leading
digit. -/
theorem pow_le_natAbs_scaled {d : Decimal} {e : Int} (h0 : d.coefficient ≠ 0) {k : Nat}
    (hk : k ≤ d.leadingExponent - e) (he : e ≤ d.exponent) : 10 ^ k ≤ (d.scaled e).natAbs := by
  have hpos := digitCount_pos d
  have hc : 10 ^ (d.digitCount - 1) ≤ d.coefficient.natAbs :=
    Numeral.pow_length_sub_one_le (by omega)
  rw [leadingExponent_eq] at hk
  rw [scaled_eq_mul, Int.natAbs_mul, Int.natAbs_pow]
  calc 10 ^ k ≤ 10 ^ (d.digitCount - 1 + (d.exponent - e).toNat) :=
        Nat.pow_le_pow_right (by decide) (by omega)
    _ = 10 ^ (d.digitCount - 1) * 10 ^ (d.exponent - e).toNat := Nat.pow_add ..
    _ ≤ d.coefficient.natAbs * 10 ^ (d.exponent - e).toNat := Nat.mul_le_mul_right _ hc

/-! ### Results are short enough -/

/-- The sum has no more digits than are asked for. -/
theorem digitCount_add_le (a b : Decimal) : (a.add b).digitCount ≤ span a b := by
  obtain ⟨ha, hb, hs⟩ := natAbs_scaled_lt_span a b
  have h2 := two_mul_pow_sub_one_le (k := span a b) (by omega)
  refine (Numeral.length_le_iff (by omega)).mpr ?_
  show (a.scaled (commonExponent a b) + b.scaled (commonExponent a b)).natAbs < _
  omega

/-- The difference has no more digits than are asked for. -/
theorem digitCount_sub_le (a b : Decimal) : (a.sub b).digitCount ≤ span a b := by
  obtain ⟨ha, hb, hs⟩ := natAbs_scaled_lt_span a b
  have h2 := two_mul_pow_sub_one_le (k := span a b) (by omega)
  refine (Numeral.length_le_iff (by omega)).mpr ?_
  show (a.scaled (commonExponent a b) - b.scaled (commonExponent a b)).natAbs < _
  omega

/-- The product has no more digits than are asked for. -/
theorem digitCount_mul_le (a b : Decimal) : (a.mul b).digitCount ≤ productDigits a b := by
  refine (Numeral.length_le_iff (Nat.add_pos_left (digitCount_pos a) _)).mpr ?_
  show (a.coefficient * b.coefficient).natAbs < 10 ^ (a.digitCount + b.digitCount)
  rw [Int.natAbs_mul, Nat.pow_add]
  exact Nat.mul_lt_mul'' (natAbs_coefficient_lt a) (natAbs_coefficient_lt b)

/-- The power has no more digits than are asked for. -/
theorem digitCount_pow_le_powerDigits (a : Decimal) (n : Nat) :
    (a.pow n).digitCount ≤ powerDigits a n := by
  refine (Numeral.length_le_iff (Nat.succ_pos _)).mpr ?_
  show (a.coefficient ^ n).natAbs < 10 ^ (a.digitCount * n + 1)
  rw [Int.natAbs_pow]
  calc a.coefficient.natAbs ^ n ≤ (10 ^ a.digitCount) ^ n :=
        Nat.pow_le_pow_left (Nat.le_of_lt (natAbs_coefficient_lt a)) n
    _ = 10 ^ (a.digitCount * n) := (Nat.pow_mul ..).symm
    _ < 10 ^ (a.digitCount * n + 1) := Nat.pow_lt_pow_right (by decide) (Nat.lt_succ_self _)

/-! ### Remainders -/

/-- What is far below a number is smaller, unless that number is zero. -/
theorem natAbs_scaled_lt_of_isFarBelow {a b : Decimal} (h : isFarBelow a b = true)
    (hb : b.coefficient ≠ 0) :
    (a.scaled (commonExponent a b)).natAbs < (b.scaled (commonExponent a b)).natAbs := by
  have heb := commonExponent_le_right a b
  have hpb := digitCount_pos b
  have hlb := leadingExponent_eq b
  have hbelow := pow_le_natAbs_scaled (k := (b.leadingExponent - commonExponent a b).toNat) hb
    (by omega) heb
  rw [isFarBelow, Bool.or_eq_true, isZero, beq_iff_eq, decide_eq_true_eq] at h
  rcases h with h | h
  · have hzero : a.scaled (commonExponent a b) = 0 := by rw [scaled_eq_mul, h, Int.zero_mul]
    rw [hzero]
    exact Nat.lt_of_lt_of_le (Nat.pow_pos (by decide)) hbelow
  · exact Nat.lt_of_lt_of_le
      (natAbs_scaled_lt (commonExponent_le_left a b) (by omega)) hbelow

/-- The special case of a whole quotient is none: the division gives the same. -/
theorem wholeQuotient_eq_tdiv (a b : Decimal) :
    wholeQuotient a b = (a.scaled (commonExponent a b)).tdiv (b.scaled (commonExponent a b)) := by
  unfold wholeQuotient
  simp only []
  split
  · next h =>
    by_cases hb : b.coefficient = 0
    · rw [scaled_eq_mul _ b, hb, Int.zero_mul, Int.tdiv_zero]
    · have h0 : ((a.scaled (commonExponent a b)).tdiv (b.scaled (commonExponent a b))).natAbs = 0 := by
        rw [Int.natAbs_tdiv]
        exact Nat.div_eq_of_lt (natAbs_scaled_lt_of_isFarBelow h hb)
      omega
  · rfl

/-- The special case of a remainder is none: the division leaves the same. -/
theorem mod_eq_tmod (a b : Decimal) :
    a.mod b = ⟨(a.scaled (commonExponent a b)).tmod (b.scaled (commonExponent a b)),
      commonExponent a b⟩ := by
  have hquotient := wholeQuotient_eq_tdiv a b
  unfold wholeQuotient at hquotient
  unfold mod
  simp only [] at hquotient ⊢
  split
  · next h =>
    rw [if_pos h] at hquotient
    rw [Int.tmod_def, ← hquotient, Int.mul_zero, Int.sub_zero]
  · rfl

/-- The whole quotient has no more digits than the remainder is given. -/
theorem length_wholeQuotient_le (a b : Decimal) (hb : b.coefficient ≠ 0) :
    Numeral.length (wholeQuotient a b).natAbs ≤ remainderDigits a b := by
  have hea := commonExponent_le_left a b
  have heb := commonExponent_le_right a b
  have hpb := digitCount_pos b
  have hlb := leadingExponent_eq b
  refine (Numeral.length_le_iff (Nat.succ_pos _)).mpr ?_
  rw [wholeQuotient_eq_tdiv, Int.natAbs_tdiv]
  have hden := pow_le_natAbs_scaled (k := (b.leadingExponent - commonExponent a b).toNat) hb
    (by omega) heb
  have hnum := natAbs_scaled_lt (d := a) (e := commonExponent a b) hea
    (k := (max (a.leadingExponent - b.leadingExponent) 0).toNat + 1 +
      (b.leadingExponent - commonExponent a b).toNat) (by omega)
  have hden0 : 0 < (b.scaled (commonExponent a b)).natAbs :=
    Nat.lt_of_lt_of_le (Nat.pow_pos (by decide)) hden
  refine Nat.div_lt_of_lt_mul ?_
  rw [Nat.pow_add] at hnum
  calc (a.scaled (commonExponent a b)).natAbs
      < 10 ^ ((max (a.leadingExponent - b.leadingExponent) 0).toNat + 1) *
          10 ^ (b.leadingExponent - commonExponent a b).toNat := hnum
    _ ≤ 10 ^ (remainderDigits a b) * (b.scaled (commonExponent a b)).natAbs :=
        Nat.mul_le_mul (Nat.pow_le_pow_right (by decide) (by unfold remainderDigits; omega)) hden
    _ = (b.scaled (commonExponent a b)).natAbs * 10 ^ (remainderDigits a b) := Nat.mul_comm ..

/-- The remainder has no more digits than are asked for. -/
theorem digitCount_mod_le (a b : Decimal) (hb : b.coefficient ≠ 0) :
    (a.mod b).digitCount ≤ remainderDigits a b := by
  obtain ⟨-, hs, -⟩ := natAbs_scaled_lt_span a b
  refine (Numeral.length_le_iff (Nat.succ_pos _)).mpr ?_
  rw [mod_eq_tmod, Int.natAbs_tmod]
  have hb0 : 0 < (b.scaled (commonExponent a b)).natAbs :=
    Nat.lt_of_lt_of_le (Nat.pow_pos (n := 0) (by decide))
      (pow_le_natAbs_scaled (k := 0) hb (by
        have := commonExponent_le_right a b
        have := digitCount_pos b
        have := leadingExponent_eq b
        omega) (commonExponent_le_right a b))
  calc _ < (b.scaled (commonExponent a b)).natAbs := Nat.mod_lt _ hb0
    _ < 10 ^ (span a b - 1) := hs
    _ ≤ 10 ^ remainderDigits a b :=
        Nat.pow_le_pow_right (by decide) (by unfold remainderDigits; omega)

/-! ### What the operations come to -/

section

variable {a b : Decimal}

/-- What is asked for with too many digits is not worked out. -/
theorem withPrecision_of_lt {k : Nat} {d : Unit → Decimal} (h : maxPrecision < k) :
    withPrecision k d = .error .precision := by
  rw [withPrecision, checkPrecision_of_lt h]
  rfl

/-- A result without a positive exponent only loses the digits below the lowest place, if its digits can
be asked for. -/
theorem withPrecision_of_exponent_nonpos {k : Nat} {d : Unit → Decimal} (hd : (d ()).digitCount ≤ k)
    (he : (d ()).exponent ≤ 0) (h : k ≤ maxPrecision) : withPrecision k d = .ok ((d ()).placed k) := by
  rw [withPrecision, checkPrecision_of_le h]
  exact fit_eq_ok hd (leadingExponent_le_of_exponent_nonpos he hd h)

theorem sum_of_exponent_nonpos (ha : a.exponent ≤ 0) (h : span a b ≤ maxPrecision) :
    a.sum b = .ok ((a.add b).placed (span a b)) :=
  withPrecision_of_exponent_nonpos (digitCount_add_le a b)
    (Int.le_trans (commonExponent_le_left a b) ha) h

theorem difference_of_exponent_nonpos (ha : a.exponent ≤ 0) (h : span a b ≤ maxPrecision) :
    a.difference b = .ok ((a.sub b).placed (span a b)) :=
  withPrecision_of_exponent_nonpos (digitCount_sub_le a b)
    (Int.le_trans (commonExponent_le_left a b) ha) h

theorem product_of_exponent_nonpos (ha : a.exponent ≤ 0) (hb : b.exponent ≤ 0)
    (h : productDigits a b ≤ maxPrecision) :
    a.product b = .ok ((a.mul b).placed (productDigits a b)) :=
  withPrecision_of_exponent_nonpos (digitCount_mul_le a b) (Int.add_nonpos ha hb) h

theorem remainder_of_lt (h : maxPrecision < remainderDigits a b) :
    a.remainder b = .error .precision := by
  rw [remainder, checkPrecision_of_lt h]
  rfl

/-- There is always room for the quotient inside a remainder. -/
theorem remainder_of_exponent_nonpos (ha : a.exponent ≤ 0) (hb : b.isZero = false)
    (h : remainderDigits a b ≤ maxPrecision) :
    a.remainder b = .ok ((a.mod b).placed (remainderDigits a b)) := by
  have hb0 : b.coefficient ≠ 0 := by simpa [isZero] using hb
  have hd := digitCount_mod_le a b hb0
  have he : (a.mod b).exponent ≤ 0 := Int.le_trans (commonExponent_le_left a b) ha
  rw [remainder, checkPrecision_of_le h]
  exact (if_neg (Nat.not_lt.mpr (length_wholeQuotient_le a b hb0))).trans
    (fit_eq_ok hd (leadingExponent_le_of_exponent_nonpos he hd h))

theorem natPower_of_isZero {n : Nat} (h0 : a.isZero = true) (h : powerDigits a n ≤ maxPrecision) :
    a.natPower n = .ok (.ofInt 0) := by
  rw [natPower, checkPrecision_of_le h]
  exact if_pos h0

theorem natPower_of_le {n : Nat} (h0 : a.isZero = false) (h : powerDigits a n ≤ maxPrecision)
    (hmax : (a.pow n).leadingExponent ≤ maxLeadingExponent) :
    a.natPower n = .ok ((a.pow n).placed (powerDigits a n)) := by
  rw [natPower, checkPrecision_of_le h]
  exact (if_neg (by simp [h0])).trans (fit_eq_ok (digitCount_pow_le_powerDigits a n) hmax)

theorem natPower_of_overflow {n : Nat} (h0 : a.isZero = false) (h : powerDigits a n ≤ maxPrecision)
    (hpow : (a.pow n).isZero = false) (hmax : maxLeadingExponent < (a.pow n).leadingExponent) :
    a.natPower n = .error .overflow := by
  rw [natPower, checkPrecision_of_le h]
  exact (if_neg (by simp [h0])).trans
    (fit_of_overflow (digitCount_pow_le_powerDigits a n) hpow hmax)

end

end Decimal

end LineShell
