import LineShell.Calc.Token
import LineShell.Decimal.Reader
import LineShell.Proofs.Text.Words
import Mathlib.Tactic.Ring

/-!
# Numbers that are written out

A number that is written out, without an exponent, is a sign, if there is one, and digits with at
most one point among them (`Decimal.Spelling`). The digits may be of any script, and zeros may stand
at either end.

Reading such a text gives the number that its digits write, with as many places as there are digits
behind the point (`readNumeral_chars`, `read?_text`), so that a text writes one number only
(`number_eq_of_chars_eq`). The text is a single word (`isWord_chars`).

What digits write when one is put behind them, or digits are put together, is said first
(`ofDigits_append`), and that the digits of a number write the number (`ofDigits_digits`).
-/

namespace LineShell

/-! ### Digits -/

/-- Digits put behind others move these to the left. -/
theorem ofDigits_append (as bs : List Char) :
    ofDigits (as ++ bs) = ofDigits as * 10 ^ bs.length + ofDigits bs := by
  have hfold : ∀ (ds : List Nat) (n : Nat),
      ds.foldl (fun n d => 10 * n + d) n = n * 10 ^ ds.length + ofDigitValues ds := by
    intro ds
    induction ds with
    | nil => intro n; simp [ofDigitValues]
    | cons d ds ih =>
        intro n
        have hd := ih (10 * 0 + d)
        rw [ofDigitValues, List.foldl_cons, List.foldl_cons, ih, hd, List.length_cons, pow_succ]
        ring
  rw [ofDigits, ofDigitValues, List.map_append, List.foldl_append, hfold, List.length_map]
  rfl

/-- Zeros write nothing. -/
theorem ofDigits_replicate_zero (k : Nat) : ofDigits (List.replicate k '0') = 0 := by
  induction k with
  | zero => rfl
  | succ k ih =>
      have hzero : ofDigits ['0'] = 0 := rfl
      rw [List.replicate_succ', ofDigits_append, ih, hzero, Nat.zero_mul]

theorem ofDigits_singleton_digitChar {r : Nat} (hr : r < 10) : ofDigits [Nat.digitChar r] = r := by
  revert r
  decide

/-- **The digits of a number write the number.** -/
theorem ofDigits_digits (n : Nat) : ofDigits (Numeral.digits n) = n := by
  rw [Numeral.digits_eq_toDigits]
  induction n using Nat.strong_induction_on with
  | h n ih =>
    have hr : n % 10 < 10 := Nat.mod_lt n (by decide)
    rcases Nat.eq_zero_or_pos (n / 10) with hq | hq
    · have hn : n < 10 := by omega
      rw [Nat.toDigits_of_lt_base hn, ofDigits_singleton_digitChar hn]
    · -- The last digit stands behind those of a smaller number.
      have hlt : n / 10 < n := by omega
      have hsplit : Nat.toDigits 10 n = Nat.toDigits 10 (n / 10) ++ [Nat.digitChar (n % 10)] := by
        conv_lhs => rw [← Nat.div_add_mod n 10]
        rw [← Nat.toDigits_append_toDigits (by decide) hq hr, Nat.toDigits_of_lt_base hr]
      rw [hsplit, ofDigits_append, ih _ hlt, ofDigits_singleton_digitChar hr, List.length_singleton]
      omega

/-- A digit of any script is no blank. -/
theorem isBlank_of_isDecimalDigit {c : Char} (h : isDecimalDigit c = true) : isBlank c = false := by
  have hzeros : ∀ z ∈ digitZeros,
      z = 0x30 ∨ (0xA0 < z ∧ z + 9 < 0x1680) ∨ (0x1680 < z ∧ z + 9 < 0x2000) ∨ 0x3000 < z := by
    decide
  have hrun : ∃ z ∈ digitZeros, z ≤ c.toNat ∧ c.toNat ≤ z + 9 := by
    obtain ⟨d, hd⟩ := Option.isSome_iff_exists.mp h
    unfold digitValue? at hd
    split at hd
    · split at hd
      · next hc => exact ⟨0x30, by decide, hc.1, hc.2⟩
      · cases hd
    · obtain ⟨z, hz, -⟩ := Option.map_eq_some_iff.mp hd
      have hfound := List.find?_some hz
      simp only [Bool.and_eq_true, decide_eq_true_eq] at hfound
      exact ⟨z, List.mem_of_find?_eq_some hz, hfound⟩
  obtain ⟨z, hz, hlow, hhigh⟩ := hrun
  have hapart := hzeros z hz
  unfold isBlank
  simp only [Bool.or_eq_false_iff, Bool.and_eq_false_iff, decide_eq_false_iff_not, beq_eq_false_iff_ne]
  omega

namespace Decimal

open Calc (Sign)

/-! ### Spellings -/

/-- A number as it is written out. -/
structure Spelling where
  /-- The sign that is written. -/
  sign : Option Sign
  /-- The digits before the point. -/
  whole : List Char
  /-- The digits behind the point, if there is a point. -/
  fraction : Option (List Char)
  /-- They are digits. -/
  isDecimalDigit_of_mem : ∀ c ∈ whole ++ fraction.getD [], isDecimalDigit c = true
  /-- There is one at least. -/
  digits_ne_nil : whole ++ fraction.getD [] ≠ []

namespace Spelling

variable (f : Spelling)

/-- The digits behind the point. -/
def places : List Char := f.fraction.getD []

/-- All digits. -/
def digits : List Char := f.whole ++ f.places

/-- The point and what is behind it. -/
def ending : List Char := (f.fraction.map ('.' :: ·)).getD []

/-- What is written behind the sign. -/
def body : List Char := f.whole ++ f.ending

/-- The characters of a spelling. -/
def chars : List Char := (f.sign.map Sign.char).toList ++ f.body

/-- The text of a spelling. -/
def text : String := String.ofList f.chars

/-- Whether a minus sign is written. -/
def isNegative : Bool := f.sign == some .minus

/-- The number that is written. -/
def number : Decimal :=
  ⟨if f.isNegative then -(ofDigits f.digits : Int) else ofDigits f.digits, -f.places.length⟩

theorem isDecimalDigit_of_mem_whole {c : Char} (hc : c ∈ f.whole) : isDecimalDigit c = true :=
  f.isDecimalDigit_of_mem c (List.mem_append_left _ hc)

theorem isDecimalDigit_of_mem_places {c : Char} (hc : c ∈ f.places) : isDecimalDigit c = true :=
  f.isDecimalDigit_of_mem c (List.mem_append_right _ hc)

/-- There is no point, and nothing behind it, or there is one before the places. -/
theorem ending_eq : (f.ending = [] ∧ f.places = []) ∨ f.ending = '.' :: f.places := by
  unfold ending places
  rcases f.fraction with _ | ds
  · exact .inl ⟨rfl, rfl⟩
  · exact .inr rfl

theorem places_eq_tail_ending : f.places = f.ending.tail := by
  rcases f.ending_eq with ⟨hending, hplaces⟩ | hending
  · rw [hending, hplaces, List.tail_nil]
  · rw [hending, List.tail_cons]

/-- Behind the sign there are digits and points only. -/
theorem isDecimalDigit_or_eq_of_mem_body {c : Char} (hc : c ∈ f.body) :
    isDecimalDigit c = true ∨ c = '.' := by
  rcases List.mem_append.mp hc with hc | hc
  · exact .inl (f.isDecimalDigit_of_mem_whole hc)
  · rcases f.ending_eq with ⟨hending, -⟩ | hending
    · simp [hending] at hc
    · rw [hending] at hc
      rcases List.mem_cons.mp hc with rfl | hc
      · exact .inr rfl
      · exact .inl (f.isDecimalDigit_of_mem_places hc)

theorem body_ne_nil : f.body ≠ [] := by
  intro h
  obtain ⟨hwhole, hending⟩ := List.append_eq_nil_iff.mp h
  apply f.digits_ne_nil
  have hplaces : f.places = [] := by rw [places_eq_tail_ending, hending, List.tail_nil]
  rw [hwhole, List.nil_append]
  exact hplaces

/-- A character of a spelling is a sign, a digit or a point. -/
theorem of_mem_chars {c : Char} (hc : c ∈ f.chars) :
    c = '+' ∨ c = '-' ∨ isDecimalDigit c = true ∨ c = '.' := by
  rcases List.mem_append.mp hc with hc | hc
  · obtain ⟨s, -, rfl⟩ := Option.map_eq_some_iff.mp (Option.mem_toList.mp hc)
    cases s
    · exact .inl rfl
    · exact .inr (.inl rfl)
  · exact .inr (.inr (f.isDecimalDigit_or_eq_of_mem_body hc))

/-- **A spelling is a word.** -/
theorem isWord_chars : Chars.IsWord f.chars where
  ne_nil := List.append_ne_nil_of_right_ne_nil _ f.body_ne_nil
  not_isBlank c hc := by
    rcases f.of_mem_chars hc with rfl | rfl | hdigit | rfl
    · decide
    · decide
    · exact isBlank_of_isDecimalDigit hdigit
    · decide

theorem isWord_text : Text.IsWord f.text := by
  rw [Text.IsWord, text, String.toList_ofList]
  exact f.isWord_chars

/-! ### Reading -/

/-- The sign is taken off. -/
theorem readSign_chars : readSign f.chars = (f.isNegative, f.body) := by
  have hbody : readSign f.body = (false, f.body) := by
    obtain ⟨c, cs, hcs⟩ := List.exists_cons_of_ne_nil f.body_ne_nil
    have hc : isDecimalDigit c = true ∨ c = '.' :=
      f.isDecimalDigit_or_eq_of_mem_body (by rw [hcs]; exact List.mem_cons_self)
    rw [hcs]
    unfold readSign
    split
    · next heq =>
      obtain ⟨rfl, -⟩ := List.cons.inj heq
      simp [show isDecimalDigit '-' = false by decide] at hc
    · next heq =>
      obtain ⟨rfl, -⟩ := List.cons.inj heq
      simp [show isDecimalDigit '+' = false by decide] at hc
    · rfl
  rw [chars, isNegative]
  rcases f.sign with _ | _ | _
  · exact hbody
  · rfl
  · rfl

/-- The point ends the digits before it. -/
theorem span_body :
    f.body.takeWhile isDecimalDigit = f.whole ∧ f.body.dropWhile isDecimalDigit = f.ending := by
  have hwhole : ∀ c ∈ f.whole, isDecimalDigit c = true := fun c hc => f.isDecimalDigit_of_mem_whole hc
  have hpoint : isDecimalDigit '.' = false := by decide
  rw [body, List.takeWhile_append_of_pos hwhole, List.dropWhile_append_of_pos hwhole]
  rcases f.ending_eq with ⟨hending, -⟩ | hending
  · simp [hending]
  · simp [hending, hpoint]

/-- **Reading a spelling** gives its number, if the notation can place it. -/
theorem readNumeral_chars :
    readNumeral f.chars = if f.number.isPlaceable then .ok f.number else .error .unplaceable := by
  have hnonempty : ¬ (f.whole = [] ∧ f.places = []) := by
    intro h
    exact f.digits_ne_nil (List.append_eq_nil_iff.mpr h)
  unfold readNumeral
  simp only [readSign_chars, span_body]
  rcases f.ending_eq with ⟨hending, hplaces⟩ | hending
  · have hwhole : f.whole ≠ [] := by simpa [hplaces] using hnonempty
    simp only [hending, readExponent?, number, digits, hplaces]
    rw [if_neg (by simpa using hwhole)]
    rfl
  · have hdigits : ∀ c ∈ f.places, isDecimalDigit c = true :=
      fun c hc => f.isDecimalDigit_of_mem_places hc
    have htake : f.places.takeWhile isDecimalDigit = f.places := List.takeWhile_eq_self_iff.mpr hdigits
    have hdrop : f.places.dropWhile isDecimalDigit = [] := List.dropWhile_eq_nil_iff.mpr hdigits
    simp only [hending, htake, hdrop, readExponent?, number, digits]
    rw [if_neg (by simpa using hnonempty)]
    simp only [zero_sub]
    rfl

/-- A text spells one number only. -/
theorem number_eq_of_chars_eq {f g : Spelling} (h : f.chars = g.chars) : f.number = g.number := by
  have hread : (f.isNegative, f.body) = (g.isNegative, g.body) := by
    rw [← readSign_chars, ← readSign_chars, h]
  obtain ⟨hsign, hbody⟩ := Prod.mk.inj hread
  have hwhole : f.whole = g.whole := by rw [← f.span_body.1, ← g.span_body.1, hbody]
  have hending : f.ending = g.ending := by rw [← f.span_body.2, ← g.span_body.2, hbody]
  have hplaces : f.places = g.places := by
    rw [places_eq_tail_ending, places_eq_tail_ending, hending]
  rw [number, number, digits, digits, hsign, hwhole, hplaces]

/-- Nothing is skipped when a spelling is read. -/
theorem numeralChars_text : numeralChars f.text = f.chars := by
  have hkeep : ∀ c ∈ f.chars, (c != '_') = true := by
    intro c hc
    rcases f.of_mem_chars hc with rfl | rfl | hdigit | rfl
    · decide
    · decide
    · rw [bne_iff_ne]
      rintro rfl
      revert hdigit
      decide
    · decide
  have htrimmed : Chars.IsTrimmed f.chars := by
    refine ⟨Chars.isFlush_of_not_isBlank f.isWord_chars.not_isBlank, Chars.isFlush_of_not_isBlank ?_⟩
    intro c hc
    exact f.isWord_chars.not_isBlank c (List.mem_reverse.mp hc)
  rw [numeralChars, text, String.toList_ofList, htrimmed.trim_eq, List.filter_eq_self]
  exact hkeep

/-- The number that the text of a spelling writes. -/
theorem read?_text : read? f.text = if f.number.isPlaceable then some f.number else none := by
  rw [read?, numeralChars_text, readNumeral_chars]
  split
  · rfl
  · rfl

end Spelling

end Decimal

end LineShell
