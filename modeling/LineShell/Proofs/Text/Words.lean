import LineShell.Text.Blank
import Mathlib.Data.List.Chain
import Mathlib.Data.List.TakeWhile

/-!
# Words that are written down

Words written with a space between them are read back as the words they were
(`Text.words_unwords_append`), and what follows the first of them is the text of the others
(`Text.headAndRest_unwords_cons`). A text can be put together again from its words as long as nothing
is lost between them, that is, as long as it is trimmed and every blank in it is a single space
(`Text.unwords_words`).

A text that begins with no blank is called flush. Trimming makes a text flush at both ends, and
`IsSpaced` is about what lies in between.
-/

namespace LineShell

namespace Chars

/-! ### Words -/

/-- Whether characters make up a word: there is one at least, and none of them is blank. -/
structure IsWord (w : List Char) : Prop where
  /-- There is a character. -/
  ne_nil : w ≠ []
  /-- No character is blank. -/
  not_isBlank : ∀ c ∈ w, isBlank c = false

/-- Whether characters make up a word can be tested. -/
theorem isWord_iff {w : List Char} : IsWord w ↔ w ≠ [] ∧ w.all (!isBlank ·) = true := by
  rw [List.all_eq_true]
  exact ⟨fun h => ⟨h.ne_nil, by simpa using h.not_isBlank⟩, fun h => ⟨h.1, by simpa using h.2⟩⟩

instance (w : List Char) : Decidable (IsWord w) := decidable_of_iff _ isWord_iff.symm

theorem isWord_of_mem_words {cs w : List Char} (h : w ∈ words cs) : IsWord w :=
  ⟨ne_nil_of_mem_words h, fun _ hc => not_isBlank_of_mem_words h hc⟩

/-- Without a blank nothing is cut. -/
theorem pieces_of_not_isBlank {w : List Char} (h : ∀ c ∈ w, isBlank c = false) :
    pieces isBlank w = [w] := by
  induction w with
  | nil => rfl
  | cons c w ih =>
      have hc : isBlank c = false := h c List.mem_cons_self
      simp [pieces, hc, ih fun d hd => h d (List.mem_cons_of_mem _ hd)]

/-- A word is its own only word. -/
theorem IsWord.words_eq {w : List Char} (h : IsWord w) : words w = [w] := by
  simp [words, pieces_of_not_isBlank h.not_isBlank, h.ne_nil]

/-- A word with a blank behind it is the first word of a text. -/
theorem IsWord.words_append_cons {w : List Char} (h : IsWord w) {c : Char} (hc : isBlank c = true)
    (rest : List Char) : words (w ++ c :: rest) = w :: words rest := by
  rw [Chars.words_append_cons w hc, h.words_eq, List.singleton_append]

/-- A run of spaces keeps words apart as a single one does. -/
theorem words_append_spaces_append (as : List Char) (n : Nat) (bs : List Char) :
    words (as ++ (List.replicate n ' ' ++ bs)) =
      words (as ++ (List.replicate (min n 1) ' ' ++ bs)) := by
  have hspace : isBlank ' ' = true := by decide
  have hrun : ∀ k, words (List.replicate k ' ' ++ bs) = words bs := by
    intro k
    induction k with
    | zero => rfl
    | succ k ih => rw [List.replicate_succ, List.cons_append, words_cons_of_isBlank hspace, ih]
  cases n with
  | zero => rfl
  | succ n =>
      rw [Nat.min_eq_right (Nat.le_add_left 1 n), List.replicate_succ, List.cons_append,
        words_append_cons as hspace, hrun, List.replicate_one, List.singleton_append,
        words_append_cons as hspace]

/-- The characters of the pieces are those at which nothing is cut. -/
theorem flatten_pieces {α : Type} (p : α → Bool) (as : List α) :
    (pieces p as).flatten = as.filter (!p ·) := by
  induction as with
  | nil => rfl
  | cons a as ih =>
      obtain ⟨b, bs, hpieces⟩ := List.exists_cons_of_ne_nil (pieces_ne_nil p as)
      rw [hpieces] at ih
      unfold pieces
      by_cases ha : p a = true
      · simp [ha, hpieces, ih]
      · simp [ha, hpieces, ← ih]

/-- The characters of the words are those of the text that are no blanks. -/
theorem flatten_words (cs : List Char) : (words cs).flatten = cs.filter (!isBlank ·) := by
  rw [words, List.flatten_filter_not_isEmpty, flatten_pieces]

/-- The words of a text are known when those with a character before it are, which is no blank. -/
theorem words_eq_of_words_cons_eq {c : Char} (hc : isBlank c = false) {as bs : List Char}
    (h : words (c :: as) = words (c :: bs)) : words as = words bs := by
  have hfirst : ∀ ds, ∃ w ws, pieces isBlank ds = w :: ws ∧
      words (c :: ds) = (c :: w) :: ws.filter (!·.isEmpty) := by
    intro ds
    obtain ⟨w, ws, hpieces⟩ := List.exists_cons_of_ne_nil (pieces_ne_nil isBlank ds)
    refine ⟨w, ws, hpieces, ?_⟩
    simp [words, pieces, hc, hpieces]
  obtain ⟨v, vs, has, has'⟩ := hfirst as
  obtain ⟨w, ws, hbs, hbs'⟩ := hfirst bs
  rw [has', hbs'] at h
  obtain ⟨hhead, htail⟩ := List.cons.inj h
  obtain rfl : v = w := List.tail_eq_of_cons_eq hhead
  rw [words, words, has, hbs, List.filter_cons, List.filter_cons, htail]

/-- The words of a text are known when those with a character behind it are, which is no blank. -/
theorem words_eq_of_words_append_singleton_eq {c : Char} (hc : isBlank c = false) {as bs : List Char}
    (h : words (as ++ [c]) = words (bs ++ [c])) : words as = words bs := by
  have hpieces : ∀ ds, ∃ ws w, pieces isBlank ds = ws ++ [w] ∧
      pieces isBlank (ds ++ [c]) = ws ++ [w ++ [c]] := by
    intro ds
    induction ds with
    | nil => exact ⟨[], [], rfl, by simp [pieces, hc]⟩
    | cons d ds ih =>
        obtain ⟨ws, w, hds, hdsc⟩ := ih
        rw [List.cons_append, pieces, pieces, hds, hdsc]
        cases hd : isBlank d with
        | true => exact ⟨[] :: ws, w, rfl, rfl⟩
        | false =>
            cases ws with
            | nil => exact ⟨[], d :: w, rfl, rfl⟩
            | cons v ws => exact ⟨(d :: v) :: ws, w, rfl, rfl⟩
  obtain ⟨vs, v, has, has'⟩ := hpieces as
  obtain ⟨ws, w, hbs, hbs'⟩ := hpieces bs
  have hkeep : ∀ u : List Char, [u ++ [c]].filter (!·.isEmpty) = [u ++ [c]] := fun u => by simp
  rw [words, words, has', hbs', List.filter_append, List.filter_append, hkeep, hkeep] at h
  obtain ⟨hbefore, hlast⟩ := List.append_inj' h rfl
  obtain rfl : v = w := List.append_cancel_right (List.singleton_inj.mp hlast)
  rw [words, words, has, hbs, List.filter_append, List.filter_append, hbefore]

/-! ### Flush texts -/

/-- Whether a text does not begin with a blank. -/
def IsFlush (cs : List Char) : Prop := ∀ c ∈ cs.head?, isBlank c = false

theorem isFlush_nil : IsFlush [] := fun _ h => nomatch h

theorem isFlush_cons {c : Char} {cs : List Char} : IsFlush (c :: cs) ↔ isBlank c = false := by
  simp [IsFlush]

/-- A text without blanks is flush. -/
theorem isFlush_of_not_isBlank {cs : List Char} (h : ∀ c ∈ cs, isBlank c = false) : IsFlush cs :=
  fun c hc => h c (List.mem_of_mem_head? hc)

/-- What a text begins with decides whether it is flush. -/
theorem IsFlush.append {as : List Char} (h : IsFlush as) (hne : as ≠ []) (bs : List Char) :
    IsFlush (as ++ bs) := by
  intro c hc
  rw [List.head?_append_of_ne_nil as hne] at hc
  exact h c hc

/-- The beginning of a flush text is flush. -/
theorem IsFlush.of_isPrefix {as bs : List Char} (h : IsFlush bs) (hab : as <+: bs) : IsFlush as := by
  obtain ⟨rest, rfl⟩ := hab
  cases as with
  | nil => exact isFlush_nil
  | cons c as => exact isFlush_cons.mpr (isFlush_cons.mp h)

/-- Without its leading blanks a text is flush. -/
theorem isFlush_trimStart (cs : List Char) : IsFlush (trimStart cs) := by
  intro c hc
  have hnot := List.head?_dropWhile_not isBlank cs
  rw [trimStart] at hc
  rw [hc] at hnot
  exact hnot

/-- A flush text has no leading blanks to lose. -/
theorem IsFlush.trimStart_eq {cs : List Char} (h : IsFlush cs) : trimStart cs = cs := by
  cases cs with
  | nil => rfl
  | cons c cs => rw [trimStart, List.dropWhile_cons_of_neg (by simp [isFlush_cons.mp h])]

/-- A text has no first word exactly when all of it is blank. -/
theorem headAndRest_eq_none_iff {cs : List Char} :
    headAndRest cs = none ↔ ∀ c ∈ cs, isBlank c = true := by
  have htrim : trimStart cs = [] ↔ ∀ c ∈ cs, isBlank c = true := List.dropWhile_eq_nil_iff
  rw [← htrim, headAndRest]
  cases trimStart cs <;> simp

/-- The first word of a text and the rest, where a blank stands between them. -/
theorem headAndRest_append_cons {w rest : List Char} (hw : IsWord w) {c : Char}
    (hc : isBlank c = true) (hrest : IsFlush rest) :
    headAndRest (w ++ c :: rest) = some (w, rest) := by
  have hflush : IsFlush (w ++ c :: rest) := (isFlush_of_not_isBlank hw.not_isBlank).append hw.ne_nil _
  have hkeep : ∀ d ∈ w, (!isBlank d) = true := fun d hd => by simp [hw.not_isBlank d hd]
  have htake : (w ++ c :: rest).takeWhile (!isBlank ·) = w := by
    rw [List.takeWhile_append_of_pos hkeep, List.takeWhile_cons_of_neg (by simp [hc]),
      List.append_nil]
  have hdrop : trimStart ((w ++ c :: rest).dropWhile (!isBlank ·)) = rest := by
    rw [List.dropWhile_append_of_pos hkeep, List.dropWhile_cons_of_neg (by simp [hc]), trimStart,
      List.dropWhile_cons_of_pos hc]
    exact hrest.trimStart_eq
  rw [headAndRest, hflush.trimStart_eq]
  cases hbody : w ++ c :: rest with
  | nil => simp at hbody
  | cons d ds =>
      rw [hbody] at htake hdrop
      simp only [htake, hdrop]

/-- A word has nothing behind it. -/
theorem IsWord.headAndRest_eq {w : List Char} (h : IsWord w) : headAndRest w = some (w, []) := by
  have hkeep : ∀ d ∈ w, (!isBlank d) = true := fun d hd => by simp [h.not_isBlank d hd]
  rw [headAndRest, (isFlush_of_not_isBlank h.not_isBlank).trimStart_eq]
  cases w with
  | nil => exact absurd rfl h.ne_nil
  | cons d ds =>
      have htake : (d :: ds).takeWhile (!isBlank ·) = d :: ds :=
        List.takeWhile_eq_self_iff.mpr hkeep
      have hdrop : (d :: ds).dropWhile (!isBlank ·) = [] := List.dropWhile_eq_nil_iff.mpr hkeep
      simp only [htake, hdrop]
      rfl

/-! ### Trimmed texts -/

/-- Whether a text neither begins nor ends with a blank. -/
structure IsTrimmed (cs : List Char) : Prop where
  /-- It does not begin with one. -/
  start : IsFlush cs
  /-- It does not end with one. -/
  finish : IsFlush cs.reverse

/-- A text is trimmed once it was trimmed. -/
theorem isTrimmed_trim (cs : List Char) : IsTrimmed (trim cs) := by
  refine ⟨(isFlush_trimStart cs).of_isPrefix ?_, ?_⟩
  · rw [trim, trimEnd, ← List.reverse_suffix, List.reverse_reverse]
    exact List.dropWhile_suffix isBlank
  · rw [trim, trimEnd, List.reverse_reverse]
    exact isFlush_trimStart _

/-- A trimmed text has nothing to lose. -/
theorem IsTrimmed.trim_eq {cs : List Char} (h : IsTrimmed cs) : trim cs = cs := by
  have hend : cs.reverse.dropWhile isBlank = cs.reverse := h.finish.trimStart_eq
  rw [trim, h.start.trimStart_eq, trimEnd, hend, List.reverse_reverse]

/-- A blank at the end has no part in what is left by trimming. -/
theorem trim_append_singleton {c : Char} (hc : isBlank c = true) (cs : List Char) :
    trim (cs ++ [c]) = trim cs := by
  have hend : ∀ ds : List Char, trimEnd (ds ++ [c]) = trimEnd ds := by
    intro ds
    rw [trimEnd, trimEnd, List.reverse_append, List.reverse_singleton, List.singleton_append,
      List.dropWhile_cons_of_pos hc]
  rw [trim, trim, trimStart, trimStart, List.dropWhile_append]
  cases hstart : cs.dropWhile isBlank with
  | nil => simp [hc]
  | cons d ds => exact hend (d :: ds)

/-- A blank at the start has no part in what is left by trimming. -/
theorem trim_cons {c : Char} (hc : isBlank c = true) (cs : List Char) : trim (c :: cs) = trim cs := by
  rw [trim, trimStart, List.dropWhile_cons_of_pos hc]
  rfl

/-- Nor do spaces at either end, however many there are. -/
theorem trim_spaces_append (m : Nat) (cs : List Char) (n : Nat) :
    trim (List.replicate m ' ' ++ (cs ++ List.replicate n ' ')) = trim cs := by
  have hspace : isBlank ' ' = true := by decide
  induction m with
  | zero =>
      induction n with
      | zero => simp
      | succ n ih =>
          rw [List.replicate_succ', ← List.append_assoc, ← List.append_assoc,
            trim_append_singleton hspace, List.append_assoc, ih]
  | succ m ih => rw [List.replicate_succ, List.cons_append, trim_cons hspace, ih]

/-- A trimmed text has a word, unless it is empty. -/
theorem IsTrimmed.words_ne_nil {cs : List Char} (h : IsTrimmed cs) (hne : cs ≠ []) :
    words cs ≠ [] := by
  cases cs with
  | nil => exact absurd rfl hne
  | cons c cs => exact words_cons_ne_nil (isFlush_cons.mp h.start) cs

/-- Trimming takes nothing from the words. -/
theorem words_trim (cs : List Char) : words (trim cs) = words cs := by
  have hstart : ∀ ds, words (trimStart ds) = words ds := by
    intro ds
    induction ds with
    | nil => rfl
    | cons d ds ih =>
        cases hd : isBlank d with
        | true => rw [trimStart, List.dropWhile_cons_of_pos hd, words_cons_of_isBlank hd, ← ih, trimStart]
        | false => rw [(isFlush_cons.mpr hd).trimStart_eq]
  have hend : ∀ ds, words (trimEnd ds) = words ds := by
    intro ds
    induction ds using List.reverseRecOn with
    | nil => rfl
    | append_singleton ds d ih =>
        cases hd : isBlank d with
        | true =>
            rw [trimEnd, List.reverse_append, List.reverse_singleton, List.singleton_append,
              List.dropWhile_cons_of_pos hd, words_append_cons ds hd, words_nil, List.append_nil, ← ih,
              trimEnd]
        | false =>
            rw [trimEnd, List.reverse_append, List.reverse_singleton, List.singleton_append,
              List.dropWhile_cons_of_neg (by simp [hd]), List.reverse_cons, List.reverse_reverse]
  rw [trim, hend, hstart]

/-- A trimmed text with the words of another one that stands between two marks stands between them too,
and what is between the marks has the same words. -/
theorem IsTrimmed.exists_of_words_eq {ds cs : List Char} {mark : Char} (ht : IsTrimmed ds)
    (hmark : isBlank mark = false) (h : words ds = words (mark :: (cs ++ [mark]))) :
    ∃ es, ds = mark :: (es ++ [mark]) ∧ words es = words cs := by
  have hfilter : ds.filter (!isBlank ·) = mark :: (cs.filter (!isBlank ·) ++ [mark]) := by
    rw [← flatten_words, h, flatten_words]
    simp [hmark]
  cases ds with
  | nil => cases hfilter
  | cons d ds =>
      -- the marks are the first and the last character that is no blank
      have hd : isBlank d = false := isFlush_cons.mp ht.start
      rw [List.filter_cons_of_pos (by simp [hd])] at hfilter
      obtain ⟨rfl, hrest⟩ := List.cons.inj hfilter
      rcases List.eq_nil_or_concat' ds with rfl | ⟨es, e, rfl⟩
      · simp at hrest
      · have he : isBlank e = false := by
          have hfinish := ht.finish
          rw [List.reverse_cons, List.reverse_append, List.reverse_singleton] at hfinish
          exact isFlush_cons.mp hfinish
        have hkeep : [e].filter (!isBlank ·) = [e] := by simp [he]
        rw [List.filter_append, hkeep] at hrest
        obtain rfl : e = d := List.singleton_inj.mp (List.append_inj' hrest rfl).2
        exact ⟨es, rfl, words_eq_of_words_append_singleton_eq hd (words_eq_of_words_cons_eq hd h)⟩

/-- Trimming takes something from either end only. -/
theorem trim_isInfix (cs : List Char) : trim cs <:+: cs := by
  have hstart : trimStart cs <:+: cs := (List.dropWhile_suffix isBlank).isInfix
  have hend : trim cs <+: trimStart cs := by
    rw [trim, trimEnd, ← List.reverse_suffix, List.reverse_reverse]
    exact List.dropWhile_suffix isBlank
  exact hend.isInfix.trans hstart

/-! ### Spaced texts -/

/-- Whether every blank in a text is a space that stands by itself. -/
structure IsSpaced (cs : List Char) : Prop where
  /-- Only a space is blank. -/
  eq_space : ∀ c ∈ cs, isBlank c = true → c = ' '
  /-- No two blanks stand side by side. -/
  apart : cs.IsChain fun a b => isBlank a = false ∨ isBlank b = false

/-- A part of a spaced text is spaced. -/
theorem IsSpaced.of_isInfix {as bs : List Char} (h : IsSpaced bs) (hab : as <:+: bs) : IsSpaced as :=
  ⟨fun c hc => h.eq_space c (hab.subset hc), h.apart.infix hab⟩

/-- Spaced texts make a spaced text if there is no blank on one side of the joint. -/
theorem IsSpaced.append {as bs : List Char} (ha : IsSpaced as) (hb : IsSpaced bs)
    (h : IsFlush as.reverse ∨ IsFlush bs) : IsSpaced (as ++ bs) := by
  refine ⟨?_, ha.apart.append hb.apart ?_⟩
  · intro c hc
    rcases List.mem_append.mp hc with hc | hc
    · exact ha.eq_space c hc
    · exact hb.eq_space c hc
  · intro a hlast b hfirst
    rcases h with h | h
    · exact .inl (h a (by rwa [List.head?_reverse]))
    · exact .inr (h b hfirst)

/-- A text without blanks is spaced. -/
theorem isSpaced_of_not_isBlank {cs : List Char} (h : ∀ c ∈ cs, isBlank c = false) :
    IsSpaced cs := by
  refine ⟨fun c hc hblank => by simp [h c hc] at hblank, ?_⟩
  induction cs with
  | nil => exact List.isChain_nil
  | cons a cs ih =>
      cases cs with
      | nil => exact List.isChain_singleton a
      | cons b cs =>
          exact List.isChain_cons_cons.mpr
            ⟨.inl (h a List.mem_cons_self), ih fun c hc => h c (List.mem_cons_of_mem _ hc)⟩

/-- Something without blanks, a space, and a spaced text that is flush: this is spaced. -/
theorem IsSpaced.space_append {rest : List Char} (h : IsSpaced rest) (hflush : IsFlush rest)
    {w : List Char} (hw : ∀ c ∈ w, isBlank c = false) : IsSpaced (w ++ ' ' :: rest) := by
  have hspace : IsSpaced [' '] := ⟨by simp, List.isChain_singleton _⟩
  have hend : IsFlush w.reverse := isFlush_of_not_isBlank fun c hc => hw c (List.mem_reverse.mp hc)
  exact (isSpaced_of_not_isBlank hw).append (hspace.append h (.inr hflush)) (.inl hend)

/-- A spaced and trimmed text is a word, or a word and a space with such a text behind them. -/
theorem IsSpaced.isWord_or_exists_append {cs : List Char} (h : IsSpaced cs) (ht : IsTrimmed cs)
    (hne : cs ≠ []) :
    IsWord cs ∨ ∃ w rest, IsWord w ∧ cs = w ++ ' ' :: rest ∧ rest ≠ [] ∧ IsSpaced rest ∧
      IsTrimmed rest := by
  have hsplit : cs.takeWhile (!isBlank ·) ++ cs.dropWhile (!isBlank ·) = cs :=
    List.takeWhile_append_dropWhile
  have hword : IsWord (cs.takeWhile (!isBlank ·)) := by
    refine ⟨?_, fun c hc => by simpa using List.mem_takeWhile_imp hc⟩
    cases cs with
    | nil => exact absurd rfl hne
    | cons c cs => simp [isFlush_cons.mp ht.start]
  generalize cs.takeWhile (!isBlank ·) = w at hsplit hword
  cases hrest : cs.dropWhile (!isBlank ·) with
  | nil =>
      rw [hrest, List.append_nil] at hsplit
      exact .inl (hsplit ▸ hword)
  | cons c rest =>
      have hblank : isBlank c = true := by
        have hnot := List.head?_dropWhile_not (!isBlank ·) cs
        rw [hrest] at hnot
        simpa using hnot
      rw [hrest] at hsplit
      subst hsplit
      obtain rfl : c = ' ' := h.eq_space c (by simp) hblank
      have hflush : IsFlush rest := by
        intro d hd
        have hchain := (List.isChain_append.mp h.apart).2.1
        cases rest with
        | nil => cases hd
        | cons e rest =>
            cases hd
            exact (List.isChain_cons_cons.mp hchain).1.resolve_left (by simp [hblank])
      have hne' : rest ≠ [] := by
        rintro rfl
        have := ht.finish ' ' (by simp)
        rw [hblank] at this
        cases this
      refine .inr ⟨w, rest, hword, rfl, hne', ?_, hflush, ?_⟩
      · exact h.of_isInfix ⟨w ++ [' '], [], by simp⟩
      · refine ht.finish.of_isPrefix ?_
        rw [List.reverse_prefix]
        exact ⟨w ++ [' '], by simp⟩

/-- What is put before a spaced and trimmed text, without a blank, is put before its first word. -/
theorem IsSpaced.exists_words_append {cs : List Char} (h : IsSpaced cs) (ht : IsTrimmed cs)
    (hne : cs ≠ []) {as : List Char} (has : ∀ c ∈ as, isBlank c = false) :
    ∃ w ws, words cs = w :: ws ∧ words (as ++ cs) = (as ++ w) :: ws := by
  have hword : ∀ w, IsWord w → IsWord (as ++ w) := by
    refine fun w hw => ⟨by simp [hw.ne_nil], fun c hc => ?_⟩
    rcases List.mem_append.mp hc with hc | hc
    · exact has c hc
    · exact hw.not_isBlank c hc
  rcases h.isWord_or_exists_append ht hne with hw | ⟨w, rest, hw, rfl, -⟩
  · exact ⟨cs, [], hw.words_eq, (hword cs hw).words_eq⟩
  · refine ⟨w, words rest, hw.words_append_cons (by decide) rest, ?_⟩
    rw [← List.append_assoc]
    exact (hword w hw).words_append_cons (by decide) rest

/-- **A spaced and trimmed text is made of its words.** -/
theorem intercalate_words {cs : List Char} (h : IsSpaced cs) (ht : IsTrimmed cs) :
    [' '].intercalate (words cs) = cs := by
  induction hn : cs.length using Nat.strongRecOn generalizing cs with
  | ind n ih =>
      by_cases hne : cs = []
      · subst hne
        rfl
      rcases h.isWord_or_exists_append ht hne with hw | ⟨w, rest, hw, rfl, hne', hrest, htrest⟩
      · rw [hw.words_eq]
        simp
      · -- behind the first word and its space the rest is spaced and trimmed as well
        have hih := ih rest.length (by simp [← hn]; omega) hrest htrest rfl
        rw [hw.words_append_cons (by decide)]
        cases hwords : words rest with
        | nil => exact absurd hwords (htrest.words_ne_nil hne')
        | cons v vs =>
            rw [hwords] at hih
            rw [List.intercalate_cons_cons, hih, List.append_assoc, List.singleton_append]

end Chars

namespace Text

/-- Whether a text is a word: it is not empty, and no character in it is blank. -/
def IsWord (w : String) : Prop := Chars.IsWord w.toList

instance (w : String) : Decidable (IsWord w) := inferInstanceAs (Decidable (Chars.IsWord w.toList))

theorem isWord_of_mem_words {s w : String} (h : w ∈ words s) : IsWord w := by
  obtain ⟨cs, hcs, rfl⟩ := List.mem_map.mp h
  simpa [IsWord] using Chars.isWord_of_mem_words hcs

/-! ### Words with a space between them -/

@[simp] theorem unwords_nil : unwords [] = "" := rfl

@[simp] theorem unwords_singleton (w : String) : unwords [w] = w := String.intercalate_singleton

theorem unwords_cons_of_ne_nil (w : String) {ps : List String} (h : ps ≠ []) :
    unwords (w :: ps) = w ++ " " ++ unwords ps := String.intercalate_cons_of_ne_nil h

/-- The characters of words with others behind them. -/
theorem toList_unwords_cons_of_ne_nil (w : String) {ps : List String} (h : ps ≠ []) :
    (unwords (w :: ps)).toList = w.toList ++ ' ' :: (unwords ps).toList := by
  rw [unwords_cons_of_ne_nil w h]
  simp

/-- **Words are read back** from the front of what they are written in. -/
theorem words_unwords_append {ws : List String} (h : ∀ w ∈ ws, IsWord w) (ps : List String) :
    words (unwords (ws ++ ps)) = ws ++ words (unwords ps) := by
  induction ws with
  | nil => rfl
  | cons w ws ih =>
      have hw : IsWord w := h w List.mem_cons_self
      have hih := ih fun v hv => h v (List.mem_cons_of_mem _ hv)
      rw [List.cons_append, List.cons_append, ← hih]
      by_cases hne : ws ++ ps = []
      · rw [hne, unwords_singleton, unwords_nil, words, hw.words_eq]
        simp [words]
      · rw [words, toList_unwords_cons_of_ne_nil w hne, hw.words_append_cons (by decide)]
        simp [words]

theorem words_unwords {ws : List String} (h : ∀ w ∈ ws, IsWord w) : words (unwords ws) = ws := by
  have hread := words_unwords_append h []
  rw [List.append_nil, unwords_nil] at hread
  rw [hread, words, String.toList_empty, Chars.words_nil, List.map_nil, List.append_nil]

/-- What is written with spaces between has the words of all that is written. -/
theorem words_unwords_eq_flatMap (ws : List String) : words (unwords ws) = ws.flatMap words := by
  induction ws with
  | nil => rfl
  | cons w ws ih =>
      rw [List.flatMap_cons, ← ih]
      by_cases hne : ws = []
      · subst hne
        rw [unwords_singleton, unwords_nil, words, words, String.toList_empty, Chars.words_nil,
          List.map_nil, List.append_nil]
      · rw [words, toList_unwords_cons_of_ne_nil w hne, Chars.words_append_cons _ (by decide),
          List.map_append]
        rfl

/-- Texts with the same words have them from the same characters. -/
theorem chars_words_eq_of_words_eq {s t : String} (h : words s = words t) :
    Chars.words s.toList = Chars.words t.toList :=
  List.map_injective_iff.mpr (fun _ _ heq => String.ofList_injective heq) h

/-- A text has no first word exactly when it is blank. -/
theorem headAndRest_eq_none_iff {s : String} : headAndRest s = none ↔ isBlankText s = true := by
  rw [headAndRest, Option.map_eq_none_iff, Chars.headAndRest_eq_none_iff, isBlankText, List.all_eq_true]

/-- **The first word is read back** with the text of the others. -/
theorem headAndRest_unwords_cons {w : String} (hw : IsWord w) {ps : List String}
    (hps : Chars.IsFlush (unwords ps).toList) :
    headAndRest (unwords (w :: ps)) = some (w, unwords ps) := by
  rw [headAndRest]
  by_cases hne : ps = []
  · subst hne
    rw [unwords_singleton, hw.headAndRest_eq]
    simp
  · rw [toList_unwords_cons_of_ne_nil w hne, Chars.headAndRest_append_cons hw (by decide) hps]
    simp

/-- What begins with a word is flush. -/
theorem isFlush_unwords_cons {w : String} (hw : IsWord w) (ps : List String) :
    Chars.IsFlush (unwords (w :: ps)).toList := by
  have hflush : Chars.IsFlush w.toList := Chars.isFlush_of_not_isBlank hw.not_isBlank
  by_cases hne : ps = []
  · subst hne
    rwa [unwords_singleton]
  · rw [toList_unwords_cons_of_ne_nil w hne]
    exact hflush.append hw.ne_nil _

/-- Words behind something without blanks make a spaced text. -/
theorem isSpaced_unwords_cons {w : String} (hw : ∀ c ∈ w.toList, isBlank c = false)
    {ws : List String} (hws : ∀ v ∈ ws, IsWord v) : Chars.IsSpaced (unwords (w :: ws)).toList := by
  induction ws generalizing w with
  | nil =>
      rw [unwords_singleton]
      exact Chars.isSpaced_of_not_isBlank hw
  | cons v ws ih =>
      have hv : IsWord v := hws v List.mem_cons_self
      rw [toList_unwords_cons_of_ne_nil w (List.cons_ne_nil v ws)]
      exact (ih hv.not_isBlank fun u hu => hws u (List.mem_cons_of_mem _ hu)).space_append
        (isFlush_unwords_cons hv ws) hw

/-- What words are written in is trimmed. -/
theorem isTrimmed_unwords {ws : List String} (hws : ∀ w ∈ ws, IsWord w) :
    Chars.IsTrimmed (unwords ws).toList := by
  induction ws with
  | nil => exact ⟨Chars.isFlush_nil, Chars.isFlush_nil⟩
  | cons w ws ih =>
      have hw : IsWord w := hws w List.mem_cons_self
      have hrest := ih fun v hv => hws v (List.mem_cons_of_mem _ hv)
      refine ⟨isFlush_unwords_cons hw ws, ?_⟩
      by_cases hne : ws = []
      · subst hne
        rw [unwords_singleton]
        exact Chars.isFlush_of_not_isBlank fun c hc => hw.not_isBlank c (List.mem_reverse.mp hc)
      · have hne' : (unwords ws).toList.reverse ≠ [] := by
          intro hnil
          have hread := words_unwords fun v hv => hws v (List.mem_cons_of_mem _ hv)
          rw [words, List.reverse_eq_nil_iff.mp hnil] at hread
          exact hne hread.symm
        rw [toList_unwords_cons_of_ne_nil w hne, List.reverse_append, List.reverse_cons,
          List.append_assoc]
        exact hrest.finish.append hne' _

/-- What is put before a spaced and trimmed text, without a blank, is put before its first word. -/
theorem exists_words_append {s t : String} (hs : ∀ c ∈ s.toList, isBlank c = false)
    (h : Chars.IsSpaced t.toList) (ht : Chars.IsTrimmed t.toList) (hne : t ≠ "") :
    ∃ w ws, words t = w :: ws ∧ words (s ++ t) = (s ++ w) :: ws := by
  obtain ⟨w, ws, hcut, happend⟩ := h.exists_words_append ht (by simpa using hne) hs
  refine ⟨String.ofList w, ws.map String.ofList, by simp [words, hcut], ?_⟩
  rw [words, String.toList_append, happend, List.map_cons, String.ofList_append,
    String.ofList_toList]

/-- **A spaced and trimmed text is put together from its words.** -/
theorem unwords_words {s : String} (h : Chars.IsSpaced s.toList) (ht : Chars.IsTrimmed s.toList) :
    unwords (words s) = s := by
  apply String.toList_inj.mp
  rw [unwords, String.toList_intercalate, words, List.map_map]
  simpa using Chars.intercalate_words h ht

end Text

end LineShell
