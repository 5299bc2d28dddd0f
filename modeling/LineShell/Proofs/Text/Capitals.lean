import LineShell.Text.Upper

/-!
# Capitals of capitals

The capital form of a text has a capital form of its own. If that is a text of ASCII, it is the same one
(`Text.upper_eq_of_upper_upper_eq`), so that a name in ASCII can be looked for in either of them: the letters
that have another capital form, in ASCII, are few (`asciiCased`), and none of them stands in a capital form
(`not_isAsciiCased_of_mem_upperChar`).

Both are read off the tables of capitals, where each run of letters is looked at as a whole.
-/

namespace LineShell

/-! ### The tables -/

namespace CaseRun

/-- The least code point of a capital of a run. -/
def low (r : CaseRun) : Nat := Int.toNat (r.first + r.shift)

/-- The greatest code point of a capital of a run. -/
def high (r : CaseRun) : Nat := Int.toNat (r.last + r.shift)

end CaseRun

/-- A number is the code point of its character, unless the null character stands in for one that does not
exist. -/
theorem toNat_charOfNat (n : Nat) : (Char.ofNat n).toNat = n ∨ (Char.ofNat n).toNat = 0 := by
  by_cases h : n.isValidChar
  · refine .inl ?_
    rw [Char.ofNat, dif_pos h]
    rfl
  · refine .inr ?_
    rw [Char.ofNat, dif_neg h]
    rfl

/-- What the capital form of a character comes from. -/
theorem upperChar_cases (c : Char) :
    (c.toNat < 128 ∧ upperChar c = [c.toUpper]) ∨
    (∃ ns, (c.toNat, ns) ∈ longCapitals ∧ upperChar c = ns.map Char.ofNat) ∨
    (∃ r ∈ caseRuns, 128 ≤ c.toNat ∧ r.first ≤ c.toNat ∧ c.toNat ≤ r.last ∧
      ∃ m, r.low ≤ m ∧ m ≤ r.high ∧ upperChar c = [Char.ofNat m]) ∨
    (128 ≤ c.toNat ∧ longCapitals.lookup c.toNat = none ∧
      caseRuns.find? (·.contains c.toNat) = none ∧ upperChar c = [c]) := by
  by_cases hascii : c.toNat < 128
  · exact .inl ⟨hascii, if_pos hascii⟩
  refine .inr ?_
  have hbound : 128 ≤ c.toNat := Nat.le_of_not_lt hascii
  cases hlong : longCapitals.lookup c.toNat with
  | some ns =>
      refine .inl ⟨ns, ?_, by simp only [upperChar, if_neg hascii, hlong]⟩
      obtain ⟨before, behind, htable, -⟩ := List.lookup_eq_some_iff.mp hlong
      simp [htable]
  | none =>
      cases hrun : caseRuns.find? (·.contains c.toNat) with
      | some r =>
          have hmem := List.mem_of_find?_eq_some hrun
          have hcontains := List.find?_some hrun
          simp only [CaseRun.contains, Bool.and_eq_true, decide_eq_true_eq] at hcontains
          obtain ⟨⟨hfirst, hlast⟩, -⟩ := hcontains
          refine .inr (.inl ⟨r, hmem, hbound, hfirst, hlast, Int.toNat (c.toNat + r.shift), ?_, ?_, ?_⟩)
          · rw [CaseRun.low]
            omega
          · rw [CaseRun.high]
            omega
          · simp only [upperChar, if_neg hascii, hlong, hrun]
      | none =>
          exact .inr (.inr ⟨hbound, rfl, rfl, by simp only [upperChar, if_neg hascii, hlong, hrun]⟩)

/-! ### Letters whose capitals are in ASCII -/

/-- The letters that have another capital form, in ASCII, by the first and the last code point of each run of
them: the small letters of ASCII, the sharp s, the dotless i, the long s, and ligatures. -/
def asciiCased : List (Nat × Nat) :=
  [(0x61, 0x7A), (0xDF, 0xDF), (0x131, 0x131), (0x17F, 0x17F), (0xFB00, 0xFB06)]

/-- Whether a code point is that of a letter with another capital form, in ASCII. -/
def IsAsciiCased (n : Nat) : Prop := ∃ p ∈ asciiCased, p.1 ≤ n ∧ n ≤ p.2

instance (n : Nat) : Decidable (IsAsciiCased n) :=
  inferInstanceAs (Decidable (∃ p ∈ asciiCased, p.1 ≤ n ∧ n ≤ p.2))

/-- None of these letters stands for a number that is no code point. -/
theorem not_isAsciiCased_toNat_charOfNat {n : Nat} (h : ¬ IsAsciiCased n) :
    ¬ IsAsciiCased (Char.ofNat n).toNat := by
  rcases toNat_charOfNat n with hn | hn
  · rwa [hn]
  · rw [hn]
    decide

/-- **No capital form has a letter with another capital form, in ASCII.** -/
theorem not_isAsciiCased_of_mem_upperChar {c d : Char} (hd : d ∈ upperChar c) :
    ¬ IsAsciiCased d.toNat := by
  rcases upperChar_cases c with ⟨hascii, hupper⟩ | ⟨ns, hns, hupper⟩ |
    ⟨r, hr, -, -, -, m, hlow, hhigh, hupper⟩ | ⟨hbound, hlong, hrun, hupper⟩
  · have hcapitals : ∀ n < 128, ¬ IsAsciiCased (Char.ofNat n).toUpper.toNat := by decide +kernel
    have hc := hcapitals c.toNat hascii
    rw [Char.ofNat_toNat] at hc
    rw [hupper, List.mem_singleton] at hd
    rwa [hd]
  · have hcapitals : ∀ q ∈ longCapitals, ∀ m ∈ q.2, ¬ IsAsciiCased m := by decide +kernel
    rw [hupper] at hd
    obtain ⟨m, hm, rfl⟩ := List.mem_map.mp hd
    exact not_isAsciiCased_toNat_charOfNat (hcapitals _ hns m hm)
  · have hapart : ∀ r ∈ caseRuns, ∀ p ∈ asciiCased, r.high < p.1 ∨ p.2 < r.low := by decide +kernel
    rw [hupper, List.mem_singleton] at hd
    rw [hd]
    refine not_isAsciiCased_toNat_charOfNat ?_
    rintro ⟨p, hp, hfirst, hlast⟩
    rcases hapart r hr p hp with h | h
    · omega
    · omega
  · have hlisted : ∀ p ∈ asciiCased, ∀ k ≤ p.2 - p.1, p.1 + k < 128 ∨
        longCapitals.lookup (p.1 + k) ≠ none ∨ caseRuns.find? (·.contains (p.1 + k)) ≠ none := by
      decide +kernel
    rw [hupper, List.mem_singleton] at hd
    rw [hd]
    rintro ⟨p, hp, hfirst, hlast⟩
    have hk : p.1 + (c.toNat - p.1) = c.toNat := by omega
    have hc := hlisted p hp (c.toNat - p.1) (by omega)
    rw [hk] at hc
    rcases hc with h | h | h
    · omega
    · exact h hlong
    · exact h hrun

/-- Whether a character is one of ASCII, other than the null character. -/
def IsAscii (c : Char) : Prop := 0 < c.toNat ∧ c.toNat < 128

instance (c : Char) : Decidable (IsAscii c) := inferInstanceAs (Decidable (_ ∧ _))

theorem lt_of_isAscii_charOfNat {n : Nat} (h : IsAscii (Char.ofNat n)) : n < 128 := by
  obtain ⟨hpos, hlt⟩ := h
  rcases toNat_charOfNat n with hn | hn
  · rwa [hn] at hlt
  · rw [hn] at hpos
    exact absurd hpos (Nat.lt_irrefl 0)

/-- A character with another capital form, in ASCII, is one of the listed letters. -/
theorem isAsciiCased_of_upperChar_ne {c : Char} (hascii : ∀ d ∈ upperChar c, IsAscii d)
    (hne : upperChar c ≠ [c]) : IsAsciiCased c.toNat := by
  rcases upperChar_cases c with ⟨hbound, hupper⟩ | ⟨ns, hns, hupper⟩ |
    ⟨r, hr, hbound, hfirst, hlast, m, hlow, hhigh, hupper⟩ | ⟨-, -, -, hupper⟩
  · have hsmall : ∀ n < 128, (Char.ofNat n).toUpper = Char.ofNat n ∨ IsAsciiCased n := by
      decide +kernel
    have hc := hsmall c.toNat hbound
    rw [Char.ofNat_toNat] at hc
    refine hc.resolve_left fun h => hne ?_
    rw [hupper, h]
  · have hlisted : ∀ q ∈ longCapitals, (∀ m ∈ q.2, m < 128) → IsAsciiCased q.1 := by decide +kernel
    refine hlisted _ hns fun m hm => lt_of_isAscii_charOfNat (hascii _ ?_)
    rw [hupper]
    exact List.mem_map_of_mem hm
  · have hlisted : ∀ r ∈ caseRuns, r.last < 128 ∨ 128 ≤ r.low ∨
        r.first = r.last ∧ IsAsciiCased r.first := by
      decide +kernel
    have hm : m < 128 := lt_of_isAscii_charOfNat (hascii _ (by rw [hupper]; exact List.mem_singleton_self _))
    rcases hlisted r hr with h | h | ⟨h, hcased⟩
    · omega
    · omega
    · have hc : c.toNat = r.first := by omega
      rwa [hc]
  · exact absurd hupper hne

/-- **A character of a capital form stays as it is** where its own capital form is in ASCII. -/
theorem upperChar_of_mem_upperChar {c d : Char} (hd : d ∈ upperChar c)
    (hascii : ∀ e ∈ upperChar d, IsAscii e) : upperChar d = [d] :=
  Decidable.byContradiction fun hne =>
    not_isAsciiCased_of_mem_upperChar hd (isAsciiCased_of_upperChar_ne hascii hne)

namespace Text

theorem toList_upper (s : String) : (upper s).toList = s.toList.flatMap upperChar :=
  String.toList_ofList

/-- **A capital form in ASCII** that the capital form of a text has is that of the text. -/
theorem upper_eq_of_upper_upper_eq {s t : String} (ht : ∀ c ∈ t.toList, IsAscii c)
    (h : upper (upper s) = t) : upper s = t := by
  have hstays : ∀ d ∈ (upper s).toList, upperChar d = [d] := by
    intro d hd
    obtain ⟨c, -, hc⟩ := List.mem_flatMap.mp (toList_upper s ▸ hd)
    refine upperChar_of_mem_upperChar hc fun e he => ht e ?_
    rw [← h, toList_upper (upper s)]
    exact List.mem_flatMap.mpr ⟨d, hd, he⟩
  rw [← h]
  apply String.toList_inj.mp
  rw [toList_upper (upper s)]
  generalize (upper s).toList = cs at hstays
  induction cs with
  | nil => rfl
  | cons d cs ih =>
      rw [List.flatMap_cons, hstays d List.mem_cons_self, List.singleton_append,
        ← ih fun e he => hstays e (List.mem_cons_of_mem _ he)]

end Text

end LineShell
