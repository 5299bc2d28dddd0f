import LineShell.Proofs.Decimal.Notation
import LineShell.Proofs.Decimal.Spelling

/-!
# One notation for one number

Plain notation is made from a coefficient and an exponent, and a number has many of these. A
coefficient with one zero more, one place further down, makes the same text (`plainChars_shift`);
any two decimals of one number can be brought to the same place in this way, so that they are
written alike (`plain_eq_of_toRat_eq`).

The text is in plain notation, as `IsPlain` has it, and spells the number that it was made for
(`exists_spelling`). A text spells one number only, so numbers that differ are written differently
(`plain_eq_iff`). And the reader takes the text for the number (`exists_read?_plain`).
-/

namespace LineShell

namespace Numeral

theorem digits_ne_nil (n : Nat) : digits n ≠ [] := by
  intro h
  have hpos := length_digits_pos n
  rw [h] at hpos
  exact absurd hpos (Nat.lt_irrefl 0)

/-- A number other than zero does not begin with a zero. -/
theorem head?_digits_ne_zero {n : Nat} (hn : n ≠ 0) : (digits n).head? ≠ some '0' := by
  induction n using Nat.strong_induction_on with
  | h n ih =>
    have hr : n % 10 < 10 := Nat.mod_lt n (by decide)
    rcases Nat.eq_zero_or_pos (n / 10) with hq | hq
    · have hlt : n < 10 := by omega
      rw [digits_eq_toDigits, Nat.toDigits_of_lt_base hlt, List.head?_cons]
      intro h
      exact digitChar_ne_zero hlt hn (Option.some.inj h)
    · have hsplit : digits n = digits (n / 10) ++ [Nat.digitChar (n % 10)] := by
        rw [← digits_append hq hr, Nat.div_add_mod]
      rw [hsplit, List.head?_append_of_ne_nil _ (digits_ne_nil _)]
      exact ih _ (by omega) (by omega)

end Numeral

namespace Decimal

/-! ### Points among digits -/

theorem dropFinalZeros_append_zero (ds : List Char) :
    dropFinalZeros (ds ++ ['0']) = dropFinalZeros ds := by
  rw [dropFinalZeros, dropFinalZeros, List.reverse_append]
  rfl

/-- What is dropped are zeros, and no zero is left at the end. -/
theorem exists_append_dropFinalZeros (ds : List Char) :
    (∃ zeros, ds = dropFinalZeros ds ++ List.replicate zeros '0') ∧
      (dropFinalZeros ds).getLast? ≠ some '0' := by
  induction ds using List.reverseRecOn with
  | nil => exact ⟨⟨0, rfl⟩, by decide⟩
  | append_singleton ds d ih =>
      obtain ⟨⟨zeros, hzeros⟩, hlast⟩ := ih
      by_cases hd : d = '0'
      · rw [hd, dropFinalZeros_append_zero]
        refine ⟨⟨zeros + 1, ?_⟩, hlast⟩
        conv_lhs => rw [hzeros]
        rw [List.append_assoc, List.replicate_succ']
      · have hkeep : dropFinalZeros (ds ++ [d]) = ds ++ [d] := by
          simp [dropFinalZeros, hd]
        rw [hkeep]
        exact ⟨⟨0, by simp⟩, by simpa using hd⟩

/-- Without places there is no point. -/
theorem pointed_zero {ds : List Char} (hds : ds ≠ []) : pointed 0 ds = ds := by
  have hpos : 0 < ds.length := List.length_pos_iff.mpr hds
  have hnone : 0 + 1 - ds.length = 0 := by omega
  simp [pointed, hnone, dropFinalZeros]

/-- A zero more at one place more is dropped. -/
theorem pointed_append_zero (places : Nat) (ds : List Char) :
    pointed (places + 1) (ds ++ ['0']) = pointed places ds := by
  have hlead : places + 1 + 1 - (ds ++ ['0']).length = places + 1 - ds.length := by
    rw [List.length_append, List.length_singleton]
    omega
  have hpadded : (List.replicate (places + 1 - ds.length) '0' ++ ds).length =
      max ds.length (places + 1) := by
    rw [List.length_append, List.length_replicate]
    omega
  rw [pointed, pointed, hlead, ← List.append_assoc]
  generalize List.replicate (places + 1 - ds.length) '0' ++ ds = padded at hpadded ⊢
  have hwhole : (padded ++ ['0']).length - (places + 1) = padded.length - places := by
    rw [List.length_append, List.length_singleton]
    omega
  have hle : padded.length - places ≤ padded.length := Nat.sub_le ..
  simp only [hwhole, List.take_append_of_le_length hle, List.drop_append_of_le_length hle,
    dropFinalZeros_append_zero]

/-- How digits are cut by a point: zeros are put in front of them as far as they do not reach over
the point, and zeros at the end of the places are left out. -/
structure IsCut (places : Nat) (ds whole fraction : List Char) : Prop where
  /-- Zeros make the difference. -/
  exists_zeros : ∃ lead zeros,
    List.replicate lead '0' ++ ds = whole ++ (fraction ++ List.replicate zeros '0') ∧
    fraction.length + zeros = places ∧ (lead = 0 ∨ whole.length = 1)
  /-- A digit stands before the point. -/
  whole_ne_nil : whole ≠ []
  /-- No zero is left at the end. -/
  getLast?_fraction : fraction.getLast? ≠ some '0'

/-- A point cuts digits. -/
theorem exists_isCut (places : Nat) (ds : List Char) :
    ∃ whole fraction, IsCut places ds whole fraction ∧
      pointed places ds = whole ++ if fraction.isEmpty then [] else '.' :: fraction := by
  have hlength : (List.replicate (places + 1 - ds.length) '0' ++ ds).length =
      max ds.length (places + 1) := by
    rw [List.length_append, List.length_replicate]
    omega
  rw [pointed]
  generalize hpadded : List.replicate (places + 1 - ds.length) '0' ++ ds = padded at hlength ⊢
  obtain ⟨⟨zeros, hzeros⟩, hlast⟩ := exists_append_dropFinalZeros (padded.drop (padded.length - places))
  have hplaces : (dropFinalZeros (padded.drop (padded.length - places))).length + zeros = places := by
    have h := congrArg List.length hzeros
    rw [List.length_drop, List.length_append, List.length_replicate] at h
    omega
  have hwhole : (padded.take (padded.length - places)).length =
      max ds.length (places + 1) - places := by
    rw [List.length_take]
    omega
  refine ⟨_, _, ⟨⟨places + 1 - ds.length, zeros, ?_, hplaces, ?_⟩, ?_, hlast⟩, rfl⟩
  · rw [hpadded, ← hzeros, List.take_append_drop]
  · omega
  · intro h
    rw [h, List.length_nil] at hwhole
    omega

/-! ### Decimals of one number -/

/-- What is written of a number behind its sign. -/
def magnitudeChars (d : Decimal) : List Char :=
  match d.exponent with
  | .ofNat zeros => Numeral.digits d.coefficient.natAbs ++ List.replicate zeros '0'
  | .negSucc n => pointed (n + 1) (Numeral.digits d.coefficient.natAbs)

theorem plainChars_of_coefficient_ne_zero {d : Decimal} (h : d.coefficient ≠ 0) :
    d.plainChars = (if d.coefficient < 0 then ['-'] else []) ++ d.magnitudeChars := by
  rw [plainChars, if_neg (by simpa [isZero] using h)]
  rfl

/-- A zero behind the digits stands in for one that the exponent asks for, or is dropped with the
places. -/
theorem magnitudeChars_shift {c : Int} (hc : c ≠ 0) (e : Int) :
    (⟨c * 10, e - 1⟩ : Decimal).magnitudeChars = (⟨c, e⟩ : Decimal).magnitudeChars := by
  have hdigits : Numeral.digits (c * 10).natAbs = Numeral.digits c.natAbs ++ ['0'] := by
    have hten : (c * 10).natAbs = 10 * c.natAbs + 0 := by omega
    rw [hten, Numeral.digits_append (by omega) (by decide)]
    rfl
  simp only [magnitudeChars, hdigits]
  match e with
  | .ofNat 0 =>
      show pointed 1 (Numeral.digits c.natAbs ++ ['0']) =
        Numeral.digits c.natAbs ++ List.replicate 0 '0'
      rw [pointed_append_zero, pointed_zero (Numeral.digits_ne_nil _), List.replicate_zero,
        List.append_nil]
  | .ofNat (k + 1) =>
      have hk : Int.ofNat (k + 1) - 1 = Int.ofNat k := by
        rw [Int.ofNat_eq_natCast, Int.ofNat_eq_natCast]
        omega
      rw [hk]
      simp [List.replicate_succ]
  | .negSucc k => exact pointed_append_zero (k + 1) _

/-- **A coefficient with one zero more, one place further down**, is written the same. -/
theorem plainChars_shift (c e : Int) :
    (⟨c * 10, e - 1⟩ : Decimal).plainChars = (⟨c, e⟩ : Decimal).plainChars := by
  by_cases hc : c = 0
  · rw [plainChars_of_isZero (by simp [isZero, hc]), plainChars_of_isZero (by simp [isZero, hc])]
  · have hsign : (c * 10 < 0) = (c < 0) := propext (by omega)
    rw [plainChars_of_coefficient_ne_zero (by simpa using hc), plainChars_of_coefficient_ne_zero hc,
      magnitudeChars_shift hc]
    simp only [hsign]

/-- A coefficient with zeros more, so many places further down, is written the same. -/
theorem plainChars_scaled {d : Decimal} {e : Int} (he : e ≤ d.exponent) :
    (⟨d.scaled e, e⟩ : Decimal).plainChars = d.plainChars := by
  have hzeros : ∀ k : Nat,
      (⟨d.coefficient * 10 ^ k, d.exponent - k⟩ : Decimal).plainChars = d.plainChars := by
    intro k
    induction k with
    | zero => simp
    | succ k ih =>
        have hexponent : d.exponent - (k + 1 : Nat) = d.exponent - k - 1 := by omega
        rw [pow_succ, ← mul_assoc, hexponent, plainChars_shift]
        exact ih
  have hsplit : e = d.exponent - (d.exponent - e).toNat := by omega
  have h := hzeros (d.exponent - e).toNat
  rw [scaled_eq_mul]
  rwa [← hsplit] at h

/-- Decimals of one number are written alike. -/
theorem plain_eq_of_toRat_eq {c d : Decimal} (h : c.toRat = d.toRat) : c.plain = d.plain := by
  have hscaled : c.scaled (commonExponent c d) = d.scaled (commonExponent c d) := by
    have hpow : (10 : ℚ) ^ commonExponent c d ≠ 0 := (ten_zpow_pos _).ne'
    rw [toRat_eq_scaled_left c d, toRat_eq_scaled_right c d] at h
    exact_mod_cast mul_right_cancel₀ hpow h
  rw [plain, plain, ← plainChars_scaled (commonExponent_le_left c d), hscaled,
    plainChars_scaled (commonExponent_le_right c d)]

/-! ### The text of a number -/

/-- A whole part and a fraction that write the magnitude of a number. -/
structure IsNotationOf (whole fraction : List Char) (d : Decimal) : Prop where
  /-- The whole part has no superfluous zero. -/
  isWholePart : IsWholePart whole
  /-- The fraction does not end in zero. -/
  isFraction : IsFraction fraction
  /-- They write the magnitude. -/
  abs_eq : (ofDigits (whole ++ fraction) : ℚ) * 10 ^ (-(fraction.length : Int)) = |d.toRat|
  /-- No place is needed that the number does not have. -/
  places_le : min d.exponent 0 ≤ -(fraction.length : Int)

theorem abs_toRat_eq (d : Decimal) : |d.toRat| = d.coefficient.natAbs * (10 : ℚ) ^ d.exponent := by
  rw [← toRat_abs, abs, toRat, Int.cast_natCast]

namespace IsNotationOf

variable {whole fraction : List Char} {d : Decimal}

/-- With a minus sign for a negative number they write the number. -/
theorem toRat_eq (h : IsNotationOf whole fraction d) :
    (⟨if decide (d.coefficient < 0) then -(ofDigits (whole ++ fraction) : Int)
        else ofDigits (whole ++ fraction),
      -fraction.length⟩ : Decimal).toRat = d.toRat := by
  have habs := h.abs_eq
  rw [toRat]
  by_cases hneg : d.coefficient < 0
  · have hlt : d.toRat < 0 := mul_neg_of_neg_of_pos (by exact_mod_cast hneg) (ten_zpow_pos _)
    rw [abs_of_neg hlt] at habs
    simp only [hneg, decide_true, if_true]
    push_cast
    rw [neg_mul, habs, neg_neg]
  · have hle : 0 ≤ d.toRat := mul_nonneg (by exact_mod_cast not_lt.mp hneg) (ten_zpow_pos _).le
    rw [abs_of_nonneg hle] at habs
    simpa [hneg] using habs

/-- With a minus sign for a negative number they are in plain notation. -/
theorem isPlain (h : IsNotationOf whole fraction d) (h0 : d.coefficient ≠ 0) :
    IsPlain ((if d.coefficient < 0 then ['-'] else []) ++
      (whole ++ if fraction.isEmpty then [] else '.' :: fraction)) := by
  split
  · refine .negative h.isWholePart h.isFraction ?_
    by_contra hzero
    rw [not_or, not_not, not_not] at hzero
    have habs := h.abs_eq
    rw [hzero.1, hzero.2] at habs
    apply h0
    rw [← toRat_eq_zero_iff, ← abs_eq_zero, ← habs]
    simp [show ofDigits ['0'] = 0 from rfl]
  · exact .unsigned h.isWholePart h.isFraction

end IsNotationOf

/-- The digits of a number, with zeros behind them, are a whole part. -/
theorem isWholePart_digits_append {n : Nat} (hn : n ≠ 0) (zeros : Nat) :
    IsWholePart (Numeral.digits n ++ List.replicate zeros '0') := by
  refine ⟨List.append_ne_nil_of_left_ne_nil (Numeral.digits_ne_nil n) _, ?_, ?_⟩
  · intro c hc
    rcases List.mem_append.mp hc with hc | hc
    · exact Numeral.isAsciiDigit_of_mem_digits hc
    · rw [List.eq_of_mem_replicate hc]
      decide
  · rw [List.head?_append_of_ne_nil _ (Numeral.digits_ne_nil n)]
    exact fun h => absurd h (Numeral.head?_digits_ne_zero hn)

/-- A whole number is written with its digits and zeros behind them. -/
theorem isNotationOf_digits_append {d : Decimal} (h0 : d.coefficient ≠ 0) {zeros : Nat}
    (he : d.exponent = zeros) :
    IsNotationOf (Numeral.digits d.coefficient.natAbs ++ List.replicate zeros '0') [] d where
  isWholePart := isWholePart_digits_append (Int.natAbs_ne_zero.mpr h0) zeros
  isFraction := ⟨fun c hc => absurd hc List.not_mem_nil, by simp⟩
  abs_eq := by
    rw [List.append_nil, ofDigits_append, ofDigits_digits, ofDigits_replicate_zero,
      List.length_replicate,
      abs_toRat_eq, he]
    simp
  places_le := by
    rw [List.length_nil]
    omega

/-- The digits of a number are cut by a point into a whole part and a fraction. -/
theorem IsCut.isNotationOf {d : Decimal} (h0 : d.coefficient ≠ 0) {places : Nat}
    (he : d.exponent = -places) {whole fraction : List Char}
    (h : IsCut places (Numeral.digits d.coefficient.natAbs) whole fraction) :
    IsNotationOf whole fraction d := by
  obtain ⟨⟨lead, zeros, hdigits, hplaces, hlead⟩, hwhole, hlast⟩ := h
  have hn : d.coefficient.natAbs ≠ 0 := Int.natAbs_ne_zero.mpr h0
  have hmem : ∀ c ∈ whole ++ (fraction ++ List.replicate zeros '0'), isAsciiDigit c = true := by
    intro c hc
    rw [← hdigits] at hc
    rcases List.mem_append.mp hc with hc | hc
    · rw [List.eq_of_mem_replicate hc]
      decide
    · exact Numeral.isAsciiDigit_of_mem_digits hc
  -- The zeros at either end do not count, but those behind for their places.
  have hvalue : d.coefficient.natAbs = ofDigits (whole ++ fraction) * 10 ^ zeros := by
    have h := congrArg ofDigits hdigits
    rw [← List.append_assoc, ofDigits_append, ofDigits_append (whole ++ fraction),
      ofDigits_replicate_zero,
      ofDigits_replicate_zero, ofDigits_digits, List.length_replicate] at h
    omega
  refine ⟨⟨hwhole, fun c hc => hmem c (List.mem_append_left _ hc), ?_⟩,
    ⟨fun c hc => hmem c (List.mem_append_right _ (List.mem_append_left _ hc)), hlast⟩, ?_, ?_⟩
  · intro hzero
    rcases hlead with rfl | hlength
    · have hhead : (Numeral.digits d.coefficient.natAbs).head? = some '0' := by
        rw [← List.nil_append (Numeral.digits _)]
        exact (congrArg List.head? hdigits).trans ((List.head?_append_of_ne_nil _ hwhole).trans hzero)
      exact absurd hhead (Numeral.head?_digits_ne_zero hn)
    · obtain ⟨c, rfl⟩ := List.length_eq_one_iff.mp hlength
      rw [List.head?_cons] at hzero
      rw [Option.some.inj hzero]
  · have hpow : (10 : ℚ) ^ zeros * 10 ^ d.exponent = 10 ^ (-(fraction.length : Int)) := by
      rw [← zpow_natCast, ← zpow_add₀ (by norm_num), he]
      congr 1
      omega
    rw [abs_toRat_eq, hvalue, Nat.cast_mul, Nat.cast_pow, Nat.cast_ofNat, mul_assoc, hpow]
  · omega

/-- A number other than zero has a whole part and a fraction. -/
theorem exists_isNotationOf {d : Decimal} (h0 : d.coefficient ≠ 0) :
    ∃ whole fraction, IsNotationOf whole fraction d ∧
      d.magnitudeChars = whole ++ if fraction.isEmpty then [] else '.' :: fraction := by
  unfold magnitudeChars
  split
  · next zeros he => exact ⟨_, [], isNotationOf_digits_append h0 he, by simp⟩
  · next n he =>
    obtain ⟨whole, fraction, hcut, htext⟩ := exists_isCut (n + 1) (Numeral.digits d.coefficient.natAbs)
    exact ⟨whole, fraction, hcut.isNotationOf h0 (by rw [he]; rfl), htext⟩

/-! ### Reading the text back -/

namespace Spelling

/-- A number written with a whole part and a fraction, with a point only if it is needed. -/
def ofParts (negative : Bool) {whole fraction : List Char} (hw : IsWholePart whole)
    (hf : IsFraction fraction) :
    Spelling where
  sign := if negative then some .minus else none
  whole := whole
  fraction := if fraction.isEmpty then none else some fraction
  isDecimalDigit_of_mem := by
    intro c hc
    apply isDecimalDigit_of_isAsciiDigit
    rcases List.mem_append.mp hc with hc | hc
    · exact hw.2.1 c hc
    · apply hf.1 c
      split at hc
      · exact absurd hc List.not_mem_nil
      · exact hc
  digits_ne_nil := List.append_ne_nil_of_left_ne_nil hw.1 _

variable (negative : Bool) {whole fraction : List Char} (hw : IsWholePart whole)
  (hf : IsFraction fraction)

theorem chars_ofParts :
    (ofParts negative hw hf).chars =
      (if negative then ['-'] else []) ++
      (whole ++ if fraction.isEmpty then [] else '.' :: fraction) := by
  unfold chars body ending ofParts
  cases negative <;> cases fraction <;> rfl

theorem number_ofParts :
    (ofParts negative hw hf).number =
      ⟨if negative then -(ofDigits (whole ++ fraction) : Int) else ofDigits (whole ++ fraction),
        -fraction.length⟩ := by
  unfold number isNegative digits places ofParts
  cases negative <;> cases fraction <;> rfl

end Spelling

/-- **The plain notation of a number spells the number**, with no more places than it has. -/
theorem exists_spelling (d : Decimal) :
    ∃ f : Spelling, f.chars = d.plainChars ∧ IsPlain d.plainChars ∧ f.number.toRat = d.toRat ∧
      min d.exponent 0 ≤ f.number.exponent := by
  by_cases h0 : d.coefficient = 0
  · have hzero : d.isZero = true := by simpa [isZero] using h0
    have hw : IsWholePart ['0'] := ⟨by simp, by simp [isAsciiDigit], fun _ => rfl⟩
    have hf : IsFraction [] := ⟨fun c hc => absurd hc List.not_mem_nil, by simp⟩
    refine ⟨Spelling.ofParts false hw hf, ?_, ?_, ?_, ?_⟩
    · rw [Spelling.chars_ofParts, plainChars_of_isZero hzero]
      rfl
    · rw [plainChars_of_isZero hzero]
      exact .unsigned hw hf
    · rw [Spelling.number_ofParts, toRat_eq_zero_iff.mpr h0, toRat_eq_zero_iff]
      rfl
    · rw [Spelling.number_ofParts]
      exact min_le_right _ _
  · obtain ⟨whole, fraction, hparts, htext⟩ := exists_isNotationOf h0
    have hchars := plainChars_of_coefficient_ne_zero h0
    rw [htext] at hchars
    refine ⟨.ofParts (decide (d.coefficient < 0)) hparts.isWholePart hparts.isFraction, ?_, ?_, ?_, ?_⟩
    · rw [Spelling.chars_ofParts, hchars]
      simp
    · rw [hchars]
      exact hparts.isPlain h0
    · rw [Spelling.number_ofParts]
      exact hparts.toRat_eq
    · rw [Spelling.number_ofParts]
      exact hparts.places_le

/-- A text spells one number only, so numbers that are written alike are equal. -/
theorem plain_eq_iff {c d : Decimal} : c.plain = d.plain ↔ c.toRat = d.toRat := by
  constructor
  · intro h
    obtain ⟨f, hf, -, hfrat, -⟩ := exists_spelling c
    obtain ⟨g, hg, -, hgrat, -⟩ := exists_spelling d
    have hchars : f.chars = g.chars := by rw [hf, hg, String.ofList_injective h]
    rw [← hfrat, ← hgrat, Spelling.number_eq_of_chars_eq hchars]
  · exact plain_eq_of_toRat_eq

/-- A number other than zero lies below the power of ten above its leading digit. -/
theorem abs_toRat_lt_zpow (d : Decimal) : |d.toRat| < (10 : ℚ) ^ (d.leadingExponent + 1) := by
  have hsplit : d.leadingExponent + 1 = (d.digitCount : Int) + d.exponent := by
    rw [leadingExponent_eq]
    omega
  have hdigits : (d.coefficient.natAbs : ℚ) < 10 ^ d.digitCount := by
    exact_mod_cast natAbs_coefficient_lt d
  rw [hsplit, abs_toRat_eq, zpow_add₀ (by norm_num), zpow_natCast]
  exact mul_lt_mul_of_pos_right hdigits (ten_zpow_pos _)

/-- The leading digit of a number stands where it stands, whatever the representation. -/
theorem leadingExponent_le_of_toRat_eq {c d : Decimal} (h : c.toRat = d.toRat) (h0 : d.toRat ≠ 0) :
    c.leadingExponent ≤ d.leadingExponent := by
  have hlt := leadingExponent_lt_of_abs_lt (h ▸ h0) (h ▸ abs_toRat_lt_zpow d)
  omega

theorem isPlaceable_iff {d : Decimal} :
    d.isPlaceable = true ↔ d.leadingExponent ≤ maxLeadingExponent ∧ minExponent ≤ d.exponent := by
  rw [isPlaceable, Bool.and_eq_true, decide_eq_true_eq, decide_eq_true_eq]

/-- Only numbers that the notation can place are read. -/
theorem isPlaceable_of_read? {text : String} {d : Decimal} (h : read? text = some d) :
    d.isPlaceable = true := by
  have hread : readNumeral (numeralChars text) = .ok d := by
    rw [read?] at h
    cases hnumeral : readNumeral (numeralChars text) with
    | error e => rw [hnumeral] at h; cases h
    | ok n => rw [hnumeral] at h; cases h; rfl
  -- All branches but one end with an error.
  unfold readNumeral at hread
  dsimp only at hread
  repeat' split at hread
  all_goals first
    | next hplaceable => exact Except.ok.inj hread ▸ hplaceable
    | cases hread

/-- **The text of a number is read as the number**, for all numbers that the notation can place. -/
theorem exists_read?_plain {d : Decimal} (h : d.isPlaceable = true) :
    ∃ e, read? d.plain = some e ∧ e.toRat = d.toRat := by
  obtain ⟨f, hf, -, hrat, hexponent⟩ := exists_spelling d
  have htext : f.text = d.plain := congrArg String.ofList hf
  have hplaceable : f.number.isPlaceable = true := by
    rw [isPlaceable_iff] at h ⊢
    have hmax : 0 ≤ maxLeadingExponent := by decide
    have hmin : minExponent ≤ 0 := by decide
    refine ⟨?_, by omega⟩
    by_cases h0 : d.toRat = 0
    · have hone : f.number.digitCount = 1 := by
        rw [digitCount, toRat_eq_zero_iff.mp (hrat.trans h0)]
        decide
      have hplaces : f.number.exponent ≤ 0 := by
        simp [Spelling.number]
      rw [leadingExponent_eq, hone]
      omega
    · have hle := leadingExponent_le_of_toRat_eq hrat h0
      omega
  refine ⟨f.number, ?_, hrat⟩
  rw [← htext, Spelling.read?_text, if_pos hplaceable]

/-- A number is written as a single word. -/
theorem isWord_plainChars (d : Decimal) : Chars.IsWord d.plainChars := by
  obtain ⟨f, hf, -⟩ := exists_spelling d
  rw [← hf]
  exact f.isWord_chars

end Decimal

end LineShell
