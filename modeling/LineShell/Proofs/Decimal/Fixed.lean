import LineShell.Proofs.Decimal.Canonical

/-!
# Plain notation by shortening

A decimal may be kept with its sign apart from its coefficient, and then zero has a sign too
(`SignedDecimal`). In fixed notation all places of such a number are written, be they zeros or not,
and the sign of zero is (`fixedChars`). This text is shortened: if there is a point in it, the zeros
at its end are dropped, and then the point if nothing is left behind it; what has become of a zero
is replaced by a single digit (`shorten`). Zeros before the point are out of reach, for without a
point nothing is dropped.

What is left is the plain notation of the number (`shown_eq_plain`), whatever its sign, its
coefficient and its exponent.

**Main statement** (`plain_isCanonical`): two decimals are written alike exactly when they are the
same number; the text is in plain notation; it is read back as the number; and shortening the fixed
notation gives this text.
-/

namespace LineShell

namespace Decimal

/-! ### Shortening -/

/-- A text without the characters at its end that are a given one. -/
def dropFinal (c : Char) (cs : List Char) : List Char := (cs.reverse.dropWhile (· == c)).reverse

/-- A text in fixed notation without superfluous zeros, point and sign. -/
def shorten (cs : List Char) : List Char :=
  let short := if '.' ∈ cs then dropFinal '.' (dropFinal '0' cs) else cs
  if short = ['-', '0'] ∨ short = [] then ['0'] else short

@[simp] theorem dropFinal_concat_self (c : Char) (cs : List Char) :
    dropFinal c (cs ++ [c]) = dropFinal c cs := by
  simp [dropFinal]

theorem dropFinal_concat_of_ne {b c : Char} (h : b ≠ c) (cs : List Char) :
    dropFinal c (cs ++ [b]) = cs ++ [b] := by
  simp [dropFinal, h]

/-- Another character protects what stands before it. -/
theorem dropFinal_append_cons {b c : Char} (h : b ≠ c) (as bs : List Char) :
    dropFinal c (as ++ b :: bs) = as ++ b :: dropFinal c bs := by
  induction bs using List.reverseRecOn with
  | nil => exact dropFinal_concat_of_ne h as
  | append_singleton bs d ih =>
      have hsplit : as ++ b :: (bs ++ [d]) = (as ++ b :: bs) ++ [d] := by simp
      rw [hsplit]
      by_cases hd : d = c
      · rw [hd, dropFinal_concat_self, dropFinal_concat_self, ih]
      · rw [dropFinal_concat_of_ne hd, dropFinal_concat_of_ne hd, hsplit]

/-- Nothing is dropped from a text without the character. -/
theorem dropFinal_of_not_mem {c : Char} {cs : List Char} (h : c ∉ cs) : dropFinal c cs = cs := by
  rcases List.eq_nil_or_concat' cs with rfl | ⟨ds, d, rfl⟩
  · rfl
  · refine dropFinal_concat_of_ne ?_ ds
    rintro rfl
    exact h (by simp)

/-- **What shortening leaves of digits with a point among them**: zeros at the end are dropped, and
the point if there is nothing else behind it. -/
theorem dropFinal_point_dropFinal_zero {before places : List Char} (hbefore : '.' ∉ before)
    (hplaces : '.' ∉ places) :
    dropFinal '.' (dropFinal '0' (before ++ '.' :: places)) =
      before ++ if (dropFinalZeros places).isEmpty then [] else '.' :: dropFinalZeros places := by
  have hzeros : dropFinal '0' (before ++ '.' :: places) = before ++ '.' :: dropFinalZeros places :=
    dropFinal_append_cons (by decide) before places
  have hrest : '.' ∉ dropFinalZeros places := by
    intro h
    obtain ⟨⟨zeros, hsplit⟩, -⟩ := exists_append_dropFinalZeros places
    apply hplaces
    rw [hsplit]
    exact List.mem_append_left _ h
  rw [hzeros]
  rcases List.eq_nil_or_concat' (dropFinalZeros places) with hnil | ⟨ds, d, hconcat⟩
  · rw [hnil, dropFinal_concat_self, dropFinal_of_not_mem hbefore]
    simp
  · rw [hconcat] at hrest ⊢
    have hd : d ≠ '.' := by
      rintro rfl
      exact hrest (by simp)
    have hsplit : before ++ '.' :: (ds ++ [d]) = (before ++ '.' :: ds) ++ [d] := by simp
    rw [hsplit, dropFinal_concat_of_ne hd]
    simp

/-! ### Fixed notation -/

/-- Digits with so many of them behind a point. -/
def fixedPlaces (places : Nat) (ds : List Char) : List Char :=
  let padded := List.replicate (places + 1 - ds.length) '0' ++ ds
  padded.take (padded.length - places) ++ '.' :: padded.drop (padded.length - places)

/-- Digits with places are shortened to the notation that has no superfluous ones. -/
theorem dropFinal_fixedPlaces {sign ds : List Char} (hsign : '.' ∉ sign) (hds : '.' ∉ ds)
    (places : Nat) :
    dropFinal '.' (dropFinal '0' (sign ++ fixedPlaces places ds)) = sign ++ pointed places ds := by
  have hpadded : '.' ∉ List.replicate (places + 1 - ds.length) '0' ++ ds := by
    intro h
    rcases List.mem_append.mp h with h | h
    · exact absurd (List.eq_of_mem_replicate h) (by decide)
    · exact hds h
  rw [fixedPlaces, pointed]
  generalize List.replicate (places + 1 - ds.length) '0' ++ ds = padded at hpadded ⊢
  have hbefore : '.' ∉ sign ++ padded.take (padded.length - places) := by
    intro h
    rcases List.mem_append.mp h with h | h
    · exact hsign h
    · exact hpadded (List.mem_of_mem_take h)
  have hplaces : '.' ∉ padded.drop (padded.length - places) := fun h => hpadded (List.mem_of_mem_drop h)
  rw [← List.append_assoc, dropFinal_point_dropFinal_zero hbefore hplaces, List.append_assoc]

/-- There is no negative zero in plain notation. -/
theorem IsPlain.ne_minus_zero {cs : List Char} (h : IsPlain cs) : cs ≠ ['-', '0'] := by
  intro hcs
  cases h with
  | @unsigned whole fraction hw hf =>
      obtain ⟨c, ds, rfl⟩ := List.exists_cons_of_ne_nil hw.1
      obtain ⟨rfl, -⟩ := List.cons.inj hcs
      exact absurd (hw.2.1 '-' List.mem_cons_self) (by decide)
  | @negative whole fraction hw hf hnonzero =>
      obtain ⟨c, ds, rfl⟩ := List.exists_cons_of_ne_nil hw.1
      have hrest := (List.cons.inj hcs).2
      obtain ⟨rfl, hnil⟩ := List.cons.inj hrest
      obtain ⟨rfl, hfraction⟩ := List.append_eq_nil_iff.mp hnil
      rcases hnonzero with hwhole | hne
      · exact hwhole rfl
      · simp [hne] at hfraction

/-- A decimal with its sign apart. -/
structure SignedDecimal where
  /-- Whether the sign is minus; zero may have it too. -/
  negative : Bool
  /-- The digits. -/
  coefficient : Nat
  /-- The power of ten that the last digit counts. -/
  exponent : Int
deriving DecidableEq, Repr

namespace SignedDecimal

variable (d : SignedDecimal)

/-- The number, whose sign is lost if it is zero. -/
def toDecimal : Decimal := ⟨if d.negative then -(d.coefficient : Int) else d.coefficient, d.exponent⟩

/-- The sign that is written. -/
def signChars : List Char := if d.negative then ['-'] else []

/-- A number with all its places. A positive exponent puts zeros behind the digits, but not behind
zero. -/
def fixedChars : List Char :=
  d.signChars ++ match d.exponent with
    | .ofNat zeros =>
        if d.coefficient = 0 then ['0'] else Numeral.digits d.coefficient ++ List.replicate zeros '0'
    | .negSucc n => fixedPlaces (n + 1) (Numeral.digits d.coefficient)

/-- What is shown of a number. -/
def shown : String := String.ofList (shorten d.fixedChars)

/-- What is left behind the sign. -/
def shortChars : List Char :=
  match d.exponent with
  | .ofNat zeros =>
      if d.coefficient = 0 then ['0'] else Numeral.digits d.coefficient ++ List.replicate zeros '0'
  | .negSucc n => pointed (n + 1) (Numeral.digits d.coefficient)

theorem point_not_mem_digits (n : Nat) : '.' ∉ Numeral.digits n := by
  intro h
  exact absurd (Numeral.isAsciiDigit_of_mem_digits h) (by decide)

theorem point_not_mem_signChars : '.' ∉ d.signChars := by
  unfold signChars
  split
  · decide
  · decide

/-- Superfluous zeros and a superfluous point are dropped. -/
theorem dropFinal_fixedChars :
    (if '.' ∈ d.fixedChars then dropFinal '.' (dropFinal '0' d.fixedChars) else d.fixedChars) =
      d.signChars ++ d.shortChars := by
  have hsign := d.point_not_mem_signChars
  have hdigits := point_not_mem_digits d.coefficient
  unfold fixedChars shortChars
  split
  · next zeros he =>
    refine if_neg fun h => ?_
    rcases List.mem_append.mp h with h | h
    · exact hsign h
    · split at h
      · exact absurd h (by decide)
      · rcases List.mem_append.mp h with h | h
        · exact hdigits h
        · exact absurd (List.eq_of_mem_replicate h) (by decide)
  · next n he =>
    have hpoint : '.' ∈ d.signChars ++ fixedPlaces (n + 1) (Numeral.digits d.coefficient) := by
      simp [fixedPlaces]
    rw [if_pos hpoint, dropFinal_fixedPlaces hsign hdigits]

/-- Of zero one digit is left. -/
theorem shortChars_of_coefficient_eq_zero (h : d.coefficient = 0) : d.shortChars = ['0'] := by
  unfold shortChars
  split
  · exact if_pos h
  · next n he =>
    have hdigits : Numeral.digits 0 = ['0'] := by decide
    have hpadded : List.replicate (n + 1 + 1 - 1) '0' ++ ['0'] = '0' :: List.replicate (n + 1) '0' := by
      rw [← List.replicate_succ, List.replicate_succ']
      rfl
    rw [h, hdigits, pointed, List.length_singleton, hpadded]
    simp [dropFinalZeros]

/-- Of another number its plain notation is left. -/
theorem signChars_append_shortChars (h : d.coefficient ≠ 0) :
    d.signChars ++ d.shortChars = d.toDecimal.plainChars := by
  have hnatAbs : d.toDecimal.coefficient.natAbs = d.coefficient := by
    rw [toDecimal]
    split <;> simp
  have hsign : d.toDecimal.coefficient < 0 ↔ d.negative = true := by
    rw [toDecimal]
    split <;> simp_all [Nat.pos_of_ne_zero]
  have hnonzero : d.toDecimal.coefficient ≠ 0 := by
    rw [← Int.natAbs_ne_zero, hnatAbs]
    exact h
  rw [plainChars_of_coefficient_ne_zero hnonzero, signChars, shortChars, magnitudeChars, hnatAbs]
  simp only [hsign, if_neg h]
  rfl

/-- **Shortening gives the plain notation**, and so a zero has no sign. -/
theorem shown_eq_plain : d.shown = d.toDecimal.plain := by
  rw [shown, plain, shorten, dropFinal_fixedChars]
  congr 1
  by_cases h : d.coefficient = 0
  · have hzero : d.toDecimal.isZero = true := by simp [toDecimal, isZero, h]
    have hsign : d.signChars = ['-'] ∨ d.signChars = [] := by
      unfold signChars
      split
      · exact .inl rfl
      · exact .inr rfl
    rw [d.shortChars_of_coefficient_eq_zero h, plainChars_of_isZero hzero]
    rcases hsign with hsign | hsign
    · rw [hsign]
      rfl
    · rw [hsign]
      rfl
  · obtain ⟨-, -, hplain, -⟩ := exists_spelling d.toDecimal
    rw [d.signChars_append_shortChars h]
    exact if_neg (not_or.mpr ⟨hplain.ne_minus_zero, (isWord_plainChars _).ne_nil⟩)

end SignedDecimal

/-! ### The notation and its readers -/

/-- **Plain notation is canonical.** Two decimals are written alike exactly when they are the same
number. The text has an optional minus sign, a whole part without a superfluous zero, and a fraction
that does not end in zero, if there is one; zero has no sign. It is read back as the number, for
every decimal that the notation can place. And it is the text that shortening the fixed notation
gives, for zeros with either sign too. -/
theorem plain_isCanonical :
    (∀ c d : Decimal, c.plain = d.plain ↔ c.toRat = d.toRat) ∧
    (∀ d : Decimal, IsPlain d.plain.toList) ∧
    (∀ d : Decimal, d.isPlaceable = true → ∃ e, read? d.plain = some e ∧ e.toRat = d.toRat) ∧
    ∀ d : SignedDecimal, d.shown = d.toDecimal.plain := by
  refine ⟨fun c d => plain_eq_iff, fun d => ?_, fun d => exists_read?_plain,
    SignedDecimal.shown_eq_plain⟩
  obtain ⟨-, -, hplain, -⟩ := exists_spelling d
  rw [plain, String.toList_ofList]
  exact hplain

/-- A number with superfluous zeros on either side of the point is written like the same number
without them and read back, and what is left of a negative zero with seven places is one digit. -/
theorem plain_of_superfluous_zeros :
    (⟨-12500, -6⟩ : Decimal).plain = (⟨-125, -4⟩ : Decimal).plain ∧
      IsPlain (⟨-12500, -6⟩ : Decimal).plain.toList ∧
      (∃ e, read? (⟨-12500, -6⟩ : Decimal).plain = some e ∧ e.toRat = (⟨-12500, -6⟩ : Decimal).toRat) ∧
      (⟨-12500, -6⟩ : Decimal).plain = "-0.0125" ∧
      (⟨true, 0, -7⟩ : SignedDecimal).shown = "0" := by
  obtain ⟨hiff, hplain, hread, hshown⟩ := plain_isCanonical
  have hvalue : (⟨-12500, -6⟩ : Decimal).toRat = (⟨-125, -4⟩ : Decimal).toRat := by
    norm_num [toRat]
  have hplaceable : (⟨-12500, -6⟩ : Decimal).isPlaceable = true := by decide
  have hzero : (⟨true, 0, -7⟩ : SignedDecimal).toDecimal.plain = "0" := by decide
  exact ⟨(hiff _ _).mpr hvalue, hplain _, hread _ hplaceable, by decide, (hshown _).trans hzero⟩

end Decimal

end LineShell
