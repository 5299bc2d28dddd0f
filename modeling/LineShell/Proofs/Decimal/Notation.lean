import LineShell.Decimal.Plain
import LineShell.Proofs.Decimal.Value
import Mathlib.Data.Nat.Factorization.Basic

/-!
# The length of plain notation

How many digits a number takes in plain notation (`Decimal.plainDigitCount`). A number with places behind
the point takes all its digits, or as many zeros as bring it there, but for the zeros at the end of its
places (`plainDigitCount_of_nonpos`). A whole number takes its digits. It is the number that matters, and
not its representation (`plainDigitCount_eq_of_toRat_eq`).

A power has so many times the zeros at its end that its base has (`finalZeros_pow`), and its digits lie
between those of the base without the leading one and those of the base, so many times
(`digitCount_pow_le`, `mul_lt_digitCount_pow`).

**Main statement** (`plainDigitCount_pow`): how many digits a power takes.
-/

namespace LineShell

namespace Numeral

/-! ### Zeros at the end -/

/-- How many zeros a number has at its end. -/
def finalZeros (n : Nat) : Nat := ((digits n).reverse.takeWhile (· == '0')).length

/-- A digit behind a number. -/
theorem digits_append {n r : Nat} (hn : 0 < n) (hr : r < 10) :
    digits (10 * n + r) = digits n ++ [Nat.digitChar r] := by
  rw [digits_eq_toDigits, digits_eq_toDigits, ← Nat.toDigits_append_toDigits (by decide) hn hr,
    Nat.toDigits_of_lt_base hr]

theorem isAsciiDigit_of_mem_digits {n : Nat} {c : Char} (h : c ∈ digits n) : isAsciiDigit c = true := by
  rw [digits_eq_toDigits] at h
  have hdigit : 48 ≤ c.val ∧ c.val ≤ 57 := by
    simpa [Char.isDigit] using Nat.isDigit_of_mem_toDigits (by decide) (by decide) h
  exact decide_eq_true hdigit

/-- The last digit of a number. -/
theorem exists_digits_eq_append (n : Nat) : ∃ ds, digits n = ds ++ [Nat.digitChar (n % 10)] := by
  have hr : n % 10 < 10 := Nat.mod_lt n (by decide)
  rcases Nat.eq_zero_or_pos (n / 10) with hq | hq
  · refine ⟨[], ?_⟩
    rw [List.nil_append, digits_eq_toDigits, Nat.toDigits_of_lt_base (by omega),
      Nat.mod_eq_of_lt (by omega)]
  · refine ⟨digits (n / 10), ?_⟩
    rw [← digits_append hq hr, Nat.div_add_mod]

theorem digitChar_ne_zero {r : Nat} (hr : r < 10) (h0 : r ≠ 0) : Nat.digitChar r ≠ '0' := by
  revert r
  decide

/-- A number that is no multiple of ten has no zero at its end. -/
theorem finalZeros_of_mod_ne_zero {n : Nat} (hn : n % 10 ≠ 0) : finalZeros n = 0 := by
  obtain ⟨ds, hds⟩ := exists_digits_eq_append n
  have hlast : Nat.digitChar (n % 10) ≠ '0' := digitChar_ne_zero (Nat.mod_lt n (by decide)) hn
  rw [finalZeros, hds, List.reverse_append]
  simp [hlast]

/-- A number times ten has one zero more. -/
theorem finalZeros_mul_ten {n : Nat} (hn : 0 < n) : finalZeros (10 * n) = finalZeros n + 1 := by
  have hzero : Nat.digitChar 0 = '0' := rfl
  rw [finalZeros, finalZeros, ← Nat.add_zero (10 * n), digits_append hn (by decide), hzero,
    List.reverse_append]
  rfl

/-- A power of ten before a number that is no multiple of ten makes so many zeros. -/
theorem finalZeros_pow_mul {m : Nat} (hm : m % 10 ≠ 0) (z : Nat) : finalZeros (10 ^ z * m) = z := by
  induction z with
  | zero => rw [Nat.pow_zero, Nat.one_mul, finalZeros_of_mod_ne_zero hm]
  | succ z ih =>
      have hpos : 0 < 10 ^ z * m := Nat.mul_pos (Nat.pow_pos (by decide)) (by omega)
      rw [Nat.pow_succ', Nat.mul_assoc, finalZeros_mul_ten hpos, ih]

/-- A number other than zero is a power of ten before a number that is no multiple of ten. -/
theorem exists_eq_pow_mul {n : Nat} (hn : n ≠ 0) : ∃ z m : Nat, n = 10 ^ z * m ∧ m % 10 ≠ 0 := by
  obtain ⟨z, m, hm, hz⟩ := Nat.exists_eq_pow_mul_and_not_dvd hn 10 (by decide)
  exact ⟨z, m, hz, mt Nat.dvd_of_mod_eq_zero hm⟩

/-- Not all digits of a number other than zero are zeros at its end. -/
theorem finalZeros_lt_length {n : Nat} (hn : n ≠ 0) : finalZeros n < length n := by
  obtain ⟨z, m, rfl, hm⟩ := exists_eq_pow_mul hn
  rw [finalZeros_pow_mul hm]
  refine Nat.lt_of_not_le fun hle => ?_
  have hz : 0 < z := Nat.lt_of_lt_of_le (length_pos _) hle
  have hlt := (length_le_iff hz).mp hle
  have hge : 10 ^ z * 1 ≤ 10 ^ z * m := Nat.mul_le_mul_left _ (by omega)
  omega

/-- The zeros at the end can be divided out. -/
theorem pow_finalZeros_dvd {n : Nat} (hn : n ≠ 0) : 10 ^ finalZeros n ∣ n := by
  obtain ⟨z, m, rfl, hm⟩ := exists_eq_pow_mul hn
  rw [finalZeros_pow_mul hm]
  exact Nat.dvd_mul_right _ _

/-- A power of a number that is no multiple of ten is none. -/
theorem pow_mod_ten_ne_zero {m : Nat} (hm : m % 10 ≠ 0) (n : Nat) : m ^ n % 10 ≠ 0 := by
  intro h
  have hdvd : 2 * 5 ∣ m ^ n := Nat.dvd_of_mod_eq_zero h
  have htwo : 2 ∣ m := Nat.prime_two.dvd_of_dvd_pow (dvd_of_mul_right_dvd hdvd)
  have hfive : 5 ∣ m := Nat.prime_five.dvd_of_dvd_pow (dvd_of_mul_left_dvd hdvd)
  omega

/-- A power has so many times the zeros. -/
theorem finalZeros_pow {n : Nat} (hn : n ≠ 0) (k : Nat) : finalZeros (n ^ k) = finalZeros n * k := by
  obtain ⟨z, m, rfl, hm⟩ := exists_eq_pow_mul hn
  rw [Nat.mul_pow, ← Nat.pow_mul, finalZeros_pow_mul hm, finalZeros_pow_mul (pow_mod_ten_ne_zero hm k)]

theorem finalZeros_mul_pow {n : Nat} (hn : n ≠ 0) (k : Nat) : finalZeros (n * 10 ^ k) = finalZeros n + k := by
  obtain ⟨z, m, rfl, hm⟩ := exists_eq_pow_mul hn
  rw [Nat.mul_right_comm, ← Nat.pow_add, finalZeros_pow_mul hm, finalZeros_pow_mul hm]

/-- Zeros behind a number are digits of it. -/
theorem length_mul_pow {n : Nat} (hn : n ≠ 0) (k : Nat) : length (n * 10 ^ k) = length n + k := by
  have hpow : 0 < 10 ^ k := Nat.pow_pos (by decide)
  have hpos := length_pos n
  refine Nat.le_antisymm ((length_le_iff (by omega)).mpr ?_) (Nat.le_of_not_lt fun hlt => ?_)
  · rw [Nat.pow_add]
    exact Nat.mul_lt_mul_of_pos_right (lt_pow_length n) hpow
  · have hlength := length_pos (n * 10 ^ k)
    have hbelow : n * 10 ^ k < 10 ^ (length n - 1 + k) := (length_le_iff (by omega)).mp (by omega)
    rw [Nat.pow_add] at hbelow
    have hleading := pow_length_sub_one_le hn
    exact absurd (Nat.lt_of_mul_lt_mul_right hbelow) (Nat.not_lt.mpr hleading)

end Numeral

namespace Decimal

/-! ### Digits in plain notation -/

/-- How many digits a number takes in plain notation; a sign and a point are none. -/
def plainDigitCount (d : Decimal) : Nat := d.plainChars.countP isAsciiDigit

/-- How many zeros a number has at the end of its coefficient. -/
def finalZeros (d : Decimal) : Nat := Numeral.finalZeros d.coefficient.natAbs

theorem length_dropFinalZeros (ds : List Char) :
    (dropFinalZeros ds).length = ds.length - (ds.reverse.takeWhile (· == '0')).length := by
  have hsplit := congrArg List.length (List.takeWhile_append_dropWhile (p := (· == '0')) (l := ds.reverse))
  rw [List.length_append, List.length_reverse] at hsplit
  rw [dropFinalZeros, List.length_reverse]
  omega

/-- A point is not counted. -/
theorem countP_isAsciiDigit_pointed {whole fraction : List Char} (hw : ∀ c ∈ whole, isAsciiDigit c = true)
    (hf : ∀ c ∈ fraction, isAsciiDigit c = true) :
    (whole ++ if fraction.isEmpty then [] else '.' :: fraction).countP isAsciiDigit =
      whole.length + fraction.length := by
  have hpoint : isAsciiDigit '.' = false := by decide
  cases fraction with
  | nil => simpa using List.countP_eq_length.mpr hw
  | cons c cs =>
      rw [List.countP_append, List.countP_eq_length.mpr hw, if_neg (by simp),
        List.countP_cons_of_neg (by simp [hpoint]), List.countP_eq_length.mpr hf]

/-- Zeros at the end, of the last so many characters of a text: as many as the text has, but for those
that are not among them. -/
theorem length_takeWhile_drop (cs : List Char) {k : Nat} (hk : k ≤ cs.length) :
    ((cs.drop (cs.length - k)).reverse.takeWhile (· == '0')).length =
      min k (cs.reverse.takeWhile (· == '0')).length := by
  rw [List.reverse_drop, Nat.sub_sub_self hk, ← List.take_takeWhile, List.length_take]

/-- Zeros in front of digits that are not all zeros are none at their end. -/
theorem takeWhile_reverse_replicate_append {ds : List Char}
    (hds : (ds.reverse.takeWhile (· == '0')).length < ds.length) (k : Nat) :
    (List.replicate k '0' ++ ds).reverse.takeWhile (· == '0') = ds.reverse.takeWhile (· == '0') := by
  rw [List.reverse_append, List.takeWhile_append, if_neg]
  rw [List.length_reverse]
  exact Nat.ne_of_lt hds

/-- Digits with a point among them: so many as there are, and as bring them to the point, but for the
zeros at the end of the places. -/
theorem countP_pointed {n : Nat} (hn : n ≠ 0) (places : Nat) :
    (pointed places (Numeral.digits n)).countP isAsciiDigit =
      max (Numeral.length n) (places + 1) - min places (Numeral.finalZeros n) := by
  have hzeros := Numeral.finalZeros_lt_length hn
  rw [Numeral.finalZeros, Numeral.length_eq_length_digits] at hzeros
  have hdigit : ∀ c ∈ Numeral.digits n, isAsciiDigit c = true :=
    fun c hc => Numeral.isAsciiDigit_of_mem_digits hc
  rw [Numeral.finalZeros, Numeral.length_eq_length_digits]
  generalize Numeral.digits n = ds at hzeros hdigit ⊢
  have hpadded : ∀ c ∈ List.replicate (places + 1 - ds.length) '0' ++ ds, isAsciiDigit c = true := by
    intro c hc
    rcases List.mem_append.mp hc with h | h
    · rw [List.eq_of_mem_replicate h]
      decide
    · exact hdigit c h
  have hlength : (List.replicate (places + 1 - ds.length) '0' ++ ds).length = max ds.length (places + 1) := by
    rw [List.length_append, List.length_replicate]
    omega
  have hends := takeWhile_reverse_replicate_append hzeros (places + 1 - ds.length)
  rw [pointed]
  generalize List.replicate (places + 1 - ds.length) '0' ++ ds = padded at hpadded hlength hends ⊢
  have hdropped : ∀ c ∈ dropFinalZeros (padded.drop (padded.length - places)), isAsciiDigit c = true := by
    intro c hc
    rw [dropFinalZeros, List.mem_reverse] at hc
    exact hpadded c (List.mem_of_mem_drop (List.mem_reverse.mp (List.dropWhile_subset _ hc)))
  rw [countP_isAsciiDigit_pointed (fun c hc => hpadded c (List.mem_of_mem_take hc)) hdropped,
    length_dropFinalZeros, length_takeWhile_drop padded (by omega), hends, List.length_take,
    List.length_drop]
  omega

/-- **The digits of a number without a positive exponent**: so many as there are, and as bring them to the
point, but for the zeros at the end of the places. -/
theorem plainDigitCount_of_nonpos {d : Decimal} (h0 : d.coefficient ≠ 0) (he : d.exponent ≤ 0) :
    d.plainDigitCount =
      max d.digitCount ((-d.exponent).toNat + 1) - min (-d.exponent).toNat d.finalZeros := by
  have hn : d.coefficient.natAbs ≠ 0 := Int.natAbs_ne_zero.mpr h0
  have hsign : (if d.coefficient < 0 then ['-'] else []).countP isAsciiDigit = 0 := by
    split <;> decide
  have hzero : d.isZero = false := by simpa [isZero] using h0
  rw [plainDigitCount, plainChars, if_neg (by simp [hzero]), nonzeroChars, List.countP_append, hsign,
    Nat.zero_add, digitCount, finalZeros]
  obtain ⟨c, e⟩ := d
  cases e with
  | ofNat k =>
      obtain rfl : k = 0 := by
        have : (k : Int) ≤ 0 := he
        omega
      have hdigits := List.countP_eq_length.mpr fun c' hc =>
        Numeral.isAsciiDigit_of_mem_digits (n := c.natAbs) hc
      have hpos := Numeral.length_pos c.natAbs
      have hplaces : (-Int.ofNat 0).toNat = 0 := rfl
      rw [Numeral.length_eq_length_digits] at hpos ⊢
      simp only [List.replicate_zero, List.append_nil, hdigits, hplaces]
      omega
  | negSucc k => exact countP_pointed hn (k + 1)

/-- A number has no digits so far behind the point as its plain notation is long: the zeros at the end
need no places. -/
theorem exists_toRat_eq_mul_of_plainDigitCount_le {d : Decimal} (h0 : d.coefficient ≠ 0)
    (he : d.exponent ≤ 0) {place : Int} (h : place ≤ -d.plainDigitCount) :
    ∃ m : Int, d.toRat = m * (10 : ℚ) ^ place := by
  have hcount := plainDigitCount_of_nonpos h0 he
  set z := min (-d.exponent).toNat d.finalZeros with hz
  obtain ⟨c, hc⟩ : (10 : Int) ^ z ∣ d.coefficient := by
    have hdvd : 10 ^ z ∣ d.coefficient.natAbs :=
      (Nat.pow_dvd_pow 10 (Nat.min_le_right _ _)).trans
        (Numeral.pow_finalZeros_dvd (Int.natAbs_ne_zero.mpr h0))
    rw [← Int.natCast_dvd] at hdvd
    exact_mod_cast hdvd
  have hshort : d.toRat = (⟨c, d.exponent + z⟩ : Decimal).toRat := by
    rw [toRat, toRat, hc, zpow_add₀ (by norm_num), zpow_natCast]
    push_cast
    ring
  have hplace : place ≤ (⟨c, d.exponent + z⟩ : Decimal).exponent := by
    show place ≤ d.exponent + z
    omega
  exact ⟨_, hshort.trans (toRat_eq_scaled hplace)⟩

/-- A whole number takes its digits. -/
theorem plainDigitCount_of_exponent_eq_zero {d : Decimal} (h0 : d.coefficient ≠ 0) (he : d.exponent = 0) :
    d.plainDigitCount = d.digitCount := by
  have hpos := digitCount_pos d
  rw [plainDigitCount_of_nonpos h0 (by omega), he, Int.neg_zero, Int.toNat_zero, Nat.zero_min]
  omega

/-- A coefficient with more zeros, at a lower exponent, has the same plain notation. -/
theorem plainDigitCount_scaled {d : Decimal} (h0 : d.coefficient ≠ 0) (he : d.exponent ≤ 0) {e : Int}
    (hle : e ≤ d.exponent) : (⟨d.scaled e, e⟩ : Decimal).plainDigitCount = d.plainDigitCount := by
  have hn : d.coefficient.natAbs ≠ 0 := Int.natAbs_ne_zero.mpr h0
  have hscaled : (d.scaled e).natAbs = d.coefficient.natAbs * 10 ^ (d.exponent - e).toNat := by
    rw [scaled_eq_mul, Int.natAbs_mul, Int.natAbs_pow]
    rfl
  have hdigits : (⟨d.scaled e, e⟩ : Decimal).digitCount = d.digitCount + (d.exponent - e).toNat := by
    rw [digitCount, digitCount, hscaled, Numeral.length_mul_pow hn]
  have hzeros : (⟨d.scaled e, e⟩ : Decimal).finalZeros = d.finalZeros + (d.exponent - e).toNat := by
    rw [finalZeros, finalZeros, hscaled, Numeral.finalZeros_mul_pow hn]
  have hnonzero : d.scaled e ≠ 0 := by
    rw [scaled_eq_mul]
    exact mul_ne_zero h0 (pow_ne_zero _ (by decide))
  -- Each of the zeros adds a digit, a place, and a zero at the end.
  have hplaces : (-e).toNat = (-d.exponent).toNat + (d.exponent - e).toNat := by omega
  rw [plainDigitCount_of_nonpos hnonzero (le_trans hle he), plainDigitCount_of_nonpos h0 he, hdigits, hzeros,
    hplaces, Nat.add_right_comm, Nat.add_max_add_right, Nat.add_min_add_right, Nat.add_sub_add_right]

/-- **The plain notation has the digits of the number**, whatever its representation. -/
theorem plainDigitCount_eq_of_toRat_eq {c d : Decimal} (h : c.toRat = d.toRat) (hc : c.exponent ≤ 0)
    (hd : d.exponent ≤ 0) : c.plainDigitCount = d.plainDigitCount := by
  by_cases h0 : d.toRat = 0
  · have hzero := isZero_iff_toRat_eq_zero.mpr h0
    have hzero' := isZero_iff_toRat_eq_zero.mpr (h.trans h0)
    rw [plainDigitCount, plainDigitCount, plainChars_of_isZero hzero, plainChars_of_isZero hzero']
  have hd0 : d.coefficient ≠ 0 := mt toRat_eq_zero_iff.mpr h0
  have hc0 : c.coefficient ≠ 0 := mt toRat_eq_zero_iff.mpr (h ▸ h0)
  have hscaled : c.scaled (commonExponent c d) = d.scaled (commonExponent c d) := by
    have hpow : (10 : ℚ) ^ commonExponent c d ≠ 0 := (ten_zpow_pos _).ne'
    rw [toRat_eq_scaled_left c d, toRat_eq_scaled_right c d] at h
    exact_mod_cast mul_right_cancel₀ hpow h
  rw [← plainDigitCount_scaled hc0 hc (commonExponent_le_left c d), hscaled,
    plainDigitCount_scaled hd0 hd (commonExponent_le_right c d)]

/-! ### Powers -/

/-- **The digits of a power.** -/
theorem plainDigitCount_pow {a : Decimal} (h0 : a.coefficient ≠ 0) (he : a.exponent ≤ 0) (n : Nat) :
    (a.pow n).plainDigitCount =
      max (a.pow n).digitCount ((-a.exponent).toNat * n + 1) -
        min (-a.exponent).toNat a.finalZeros * n := by
  have hzeros : (a.pow n).finalZeros = a.finalZeros * n := by
    rw [finalZeros, finalZeros, pow, Int.natAbs_pow, Numeral.finalZeros_pow (Int.natAbs_ne_zero.mpr h0)]
  have hplaces : (-(a.pow n).exponent).toNat = (-a.exponent).toNat * n := by
    obtain ⟨k, hk⟩ : ∃ k : Nat, a.exponent = -k := ⟨(-a.exponent).toNat, by omega⟩
    rw [pow, hk, Int.neg_mul, neg_neg, neg_neg, Int.toNat_natCast, ← Int.natCast_mul, Int.toNat_natCast]
  rw [plainDigitCount_of_nonpos (pow_ne_zero n h0) (exponent_pow_nonpos he n), hzeros, hplaces,
    Nat.mul_min_mul_right]

/-- A power has at most so many times the digits of its base. -/
theorem digitCount_pow_le (a : Decimal) {n : Nat} (hn : 0 < n) :
    (a.pow n).digitCount ≤ a.digitCount * n := by
  have hpos : 0 < a.digitCount * n := Nat.mul_pos (digitCount_pos a) hn
  rw [digitCount, pow, Int.natAbs_pow, Numeral.length_le_iff hpos, Nat.pow_mul]
  exact Nat.pow_lt_pow_left (natAbs_coefficient_lt a) (Nat.ne_of_gt hn)

/-- A power has more than so many times the digits of its base without the leading one. -/
theorem mul_lt_digitCount_pow {a : Decimal} (h0 : a.coefficient ≠ 0) (n : Nat) :
    (a.digitCount - 1) * n < (a.pow n).digitCount := by
  refine Nat.lt_of_not_le fun hle => ?_
  have hpos : 0 < (a.digitCount - 1) * n := Nat.lt_of_lt_of_le (digitCount_pos _) hle
  have hlt := (Numeral.length_le_iff hpos).mp hle
  rw [pow, Int.natAbs_pow, Nat.pow_mul] at hlt
  have hge := Nat.pow_le_pow_left (Numeral.pow_length_sub_one_le (Int.natAbs_ne_zero.mpr h0)) n
  exact absurd hlt (Nat.not_lt.mpr hge)

end Decimal

end LineShell
