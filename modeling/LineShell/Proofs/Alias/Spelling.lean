import LineShell.Proofs.Alias.Shown

/-!
# Spellings of a definition

The text of an alias may be given behind a space or behind an equals sign, with a space on either side of
the sign or on none of them, and it may stand between quotation marks, with spaces just inside of them
(`Spelling`). All of this is spelling and no part of the text.

What the command is given are the words of such a line, so runs of spaces have become single ones
(`words_line_narrow`); what remains is put together again with single spaces. An equals sign is lost in one
of two places, at the cut of the first word or when the text is cleaned (`clean_equals_append`), and the
quotation marks with the spaces inside of them are lost when the text is cleaned (`clean_wrap`). This is
all that may be lost only if the text has nothing of the kind at its own ends, which is what `IsPlain` asks
for.

**Main statement** (`run_aliases_line`): however a definition is spelled, the same comes of it.
-/

namespace LineShell

namespace Alias

open Chars (IsSpaced IsTrimmed IsFlush)

/-! ### Spellings -/

/-- What may stand between a name and its text. -/
inductive Joint where
  /-- A space. -/
  | space
  /-- An equals sign. -/
  | equals
  /-- An equals sign with a space on either side. -/
  | spacedEquals
  /-- An equals sign with a space before it. -/
  | spaceEquals
deriving DecidableEq, Repr

/-- What is written between a name and its text. -/
def Joint.text : Joint → String
  | space => " "
  | equals => "="
  | spacedEquals => " = "
  | spaceEquals => " ="

/-- The quotation marks. -/
inductive Mark where
  /-- The single one. -/
  | single
  /-- The double one. -/
  | double
deriving DecidableEq, Repr

/-- The character of a quotation mark. -/
def Mark.char : Mark → Char
  | single => '\''
  | double => '"'

/-- A quotation mark is one, and it is neither a blank nor an equals sign. -/
theorem Mark.char_spec (m : Mark) : isQuote m.char = true ∧ isBlank m.char = false ∧ m.char ≠ '=' := by
  cases m <;> decide

/-- What may stand around a text. -/
inductive Wrapping where
  /-- Nothing. -/
  | bare
  /-- A pair of quotation marks, with so many spaces before the text and behind it. -/
  | quoted (mark : Mark) (before after : Nat)
deriving DecidableEq, Repr

namespace Wrapping

/-- A text with what stands around it. -/
def wrapChars : Wrapping → List Char → List Char
  | bare, cs => cs
  | quoted mark before after, cs =>
      mark.char :: (List.replicate before ' ' ++ (cs ++ List.replicate after ' ')) ++ [mark.char]

/-- A text with what stands around it. -/
def wrap (w : Wrapping) (text : String) : String := String.ofList (w.wrapChars text.toList)

@[simp] theorem toList_wrap (w : Wrapping) (text : String) :
    (w.wrap text).toList = w.wrapChars text.toList := by
  simp [wrap]

/-- The same with one space where there are several. -/
def narrow : Wrapping → Wrapping
  | bare => bare
  | quoted mark before after => quoted mark (min before 1) (min after 1)

end Wrapping

/-- How a definition may be written. -/
structure Spelling where
  /-- What stands between the name and the text. -/
  joint : Joint
  /-- What stands around the text. -/
  wrapping : Wrapping
deriving DecidableEq, Repr

/-- A definition as it is written. -/
def Spelling.line (p : Spelling) (name text : String) : String :=
  name ++ p.joint.text ++ p.wrapping.wrap text

/-- Whether a text is made of words with a space between them, and has neither an equals sign in front nor
a quotation mark at either end. -/
structure IsPlain (text : String) : Prop where
  /-- It is made of words, of one at least. -/
  eq_unwords : ∃ ws, ws ≠ [] ∧ (∀ w ∈ ws, Text.IsWord w) ∧ text = Text.unwords ws
  /-- It begins with neither an equals sign nor a quotation mark. -/
  first : ∀ ch ∈ text.toList.head?, ch ≠ '=' ∧ isQuote ch = false
  /-- It does not end with a quotation mark. -/
  last : ∀ ch ∈ text.toList.getLast?, isQuote ch = false

namespace IsPlain

variable {text : String}

theorem isSpaced (h : IsPlain text) : IsSpaced text.toList := by
  obtain ⟨ws, hne, hws, rfl⟩ := h.eq_unwords
  obtain ⟨w, ws, rfl⟩ := List.exists_cons_of_ne_nil hne
  exact Text.isSpaced_unwords_cons (hws w List.mem_cons_self).not_isBlank
    fun v hv => hws v (List.mem_cons_of_mem _ hv)

theorem isTrimmed (h : IsPlain text) : IsTrimmed text.toList := by
  obtain ⟨ws, -, hws, rfl⟩ := h.eq_unwords
  exact Text.isTrimmed_unwords hws

theorem toList_ne_nil (h : IsPlain text) : text.toList ≠ [] := by
  obtain ⟨ws, hne, hws, rfl⟩ := h.eq_unwords
  intro hnil
  have hread := Text.words_unwords hws
  rw [Text.words, hnil] at hread
  exact hne hread.symm

end IsPlain

/-! ### What stands around a text -/

/-- One space at most is spaced. -/
theorem isSpaced_spaces {n : Nat} (hn : n ≤ 1) : IsSpaced (List.replicate n ' ') := by
  rcases Nat.le_one_iff_eq_zero_or_eq_one.mp hn with rfl | rfl
  · exact ⟨by simp, List.isChain_nil⟩
  · exact ⟨by simp, List.isChain_singleton _⟩

/-- An equals sign in front leaves a text trimmed, however many spaces follow it. -/
theorem isTrimmed_equals_append {cs : List Char} (ht : IsTrimmed cs) (hne : cs ≠ []) (n : Nat) :
    IsTrimmed ('=' :: (List.replicate n ' ' ++ cs)) := by
  refine ⟨Chars.isFlush_cons.mpr (by decide), ?_⟩
  rw [List.reverse_cons, List.reverse_append, List.append_assoc]
  exact ht.finish.append (by simpa using hne) _

/-- An equals sign in front leaves a text spaced if one space follows it at most. -/
theorem isSpaced_equals_append {cs : List Char} (hs : IsSpaced cs) (ht : IsTrimmed cs) {n : Nat}
    (hn : n ≤ 1) : IsSpaced ('=' :: (List.replicate n ' ' ++ cs)) := by
  have hequals : ∀ c ∈ ['='], isBlank c = false := List.forall_mem_singleton.mpr (by decide)
  have hbehind : IsSpaced (List.replicate n ' ' ++ cs) := (isSpaced_spaces hn).append hs (.inr ht.start)
  exact (Chars.isSpaced_of_not_isBlank hequals).append hbehind
    (.inl (Chars.isFlush_of_not_isBlank hequals))

namespace Wrapping

variable {cs : List Char}

theorem wrapChars_ne_nil (w : Wrapping) (hne : cs ≠ []) : w.wrapChars cs ≠ [] := by
  cases w with
  | bare => exact hne
  | quoted mark before after => exact List.cons_ne_nil _ _

/-- A text that is trimmed stays so. -/
theorem isTrimmed_wrapChars (w : Wrapping) (ht : IsTrimmed cs) : IsTrimmed (w.wrapChars cs) := by
  cases w with
  | bare => exact ht
  | quoted mark before after =>
      have hmark : isBlank mark.char = false := mark.char_spec.2.1
      refine ⟨Chars.isFlush_cons.mpr hmark, ?_⟩
      rw [wrapChars, List.reverse_append]
      exact Chars.isFlush_cons.mpr hmark

/-- With one space at most on either side the blanks stay apart. -/
theorem isSpaced_wrapChars_narrow (w : Wrapping) (hs : IsSpaced cs) (ht : IsTrimmed cs) (hne : cs ≠ []) :
    IsSpaced (w.narrow.wrapChars cs) := by
  cases w with
  | bare => exact hs
  | quoted mark before after =>
      have hblank : ∀ c ∈ [mark.char], isBlank c = false :=
        List.forall_mem_singleton.mpr mark.char_spec.2.1
      have hmark : IsSpaced [mark.char] := Chars.isSpaced_of_not_isBlank hblank
      have hflush : IsFlush [mark.char] := Chars.isFlush_of_not_isBlank hblank
      have hpad : ∀ n, IsSpaced (List.replicate (min n 1) ' ') := fun n =>
        isSpaced_spaces (Nat.min_le_right n 1)
      have hend : IsFlush (cs ++ List.replicate (min after 1) ' ') := ht.start.append hne _
      have htext : IsSpaced (cs ++ List.replicate (min after 1) ' ') :=
        hs.append (hpad after) (.inl ht.finish)
      have hinside : IsSpaced (List.replicate (min before 1) ' ' ++
          (cs ++ List.replicate (min after 1) ' ')) := (hpad before).append htext (.inr hend)
      have hopened : IsSpaced ([mark.char] ++ (List.replicate (min before 1) ' ' ++
          (cs ++ List.replicate (min after 1) ' '))) := hmark.append hinside (.inl hflush)
      exact hopened.append hmark (.inr hflush)

/-- Runs of spaces do not count where words are cut out. -/
theorem words_append_wrapChars_narrow (w : Wrapping) (as : List Char) :
    Chars.words (as ++ w.wrapChars cs) = Chars.words (as ++ w.narrow.wrapChars cs) := by
  cases w with
  | bare => rfl
  | quoted mark before after =>
      have hleft := Chars.words_append_spaces_append (as ++ [mark.char]) before
        (cs ++ (List.replicate after ' ' ++ [mark.char]))
      have hright := Chars.words_append_spaces_append
        (as ++ [mark.char] ++ (List.replicate (min before 1) ' ' ++ cs)) after [mark.char]
      simp only [wrapChars, narrow, List.append_assoc, List.cons_append, List.nil_append]
        at hleft hright ⊢
      rw [hleft, hright]

end Wrapping

/-! ### Cleaning -/

/-- Without an equals sign in front there is none to lose. -/
theorem dropEquals_of_head?_ne {cs : List Char} (h : ∀ ch ∈ cs.head?, ch ≠ '=') : dropEquals cs = cs := by
  unfold dropEquals
  split
  · next cs => exact absurd rfl (h '=' (by simp))
  · rfl

theorem dropQuote_of_head? {cs : List Char} (h : ∀ ch ∈ cs.head?, isQuote ch = false) :
    dropQuote cs = cs := by
  unfold dropQuote
  split
  · rfl
  · next c cs => rw [if_neg (by simp [h c (by simp)])]

theorem dropFinalQuote_of_getLast? {cs : List Char} (h : ∀ ch ∈ cs.getLast?, isQuote ch = false) :
    dropFinalQuote cs = cs := by
  rw [dropFinalQuote, dropQuote_of_head?, List.reverse_reverse]
  intro ch hch
  rw [List.head?_reverse] at hch
  exact h ch hch

theorem dropFinalQuote_concat {m : Char} (hm : isQuote m = true) (cs : List Char) :
    dropFinalQuote (cs ++ [m]) = cs := by
  rw [dropFinalQuote, List.reverse_append, List.reverse_singleton, List.singleton_append, dropQuote,
    if_pos hm, List.reverse_reverse]

/-- What stands around a plain text does not begin with an equals sign either. -/
theorem Wrapping.head?_wrapChars_ne {text : String} (h : IsPlain text) (w : Wrapping) :
    ∀ ch ∈ (w.wrapChars text.toList).head?, ch ≠ '=' := by
  intro ch hch
  cases w with
  | bare => exact (h.first ch hch).1
  | quoted mark before after =>
      obtain rfl : mark.char = ch := by simpa [Wrapping.wrapChars] using hch
      exact mark.char_spec.2.2

/-- **Cleaning leaves the text** of what stands around it. -/
theorem clean_wrap {text : String} (h : IsPlain text) (w : Wrapping) : clean (w.wrap text) = text := by
  have hbody : dropEquals (Chars.trim (w.wrapChars text.toList)) = w.wrapChars text.toList := by
    rw [(w.isTrimmed_wrapChars h.isTrimmed).trim_eq, dropEquals_of_head?_ne (w.head?_wrapChars_ne h)]
  have hinside : Chars.trim (dropFinalQuote (dropQuote (w.wrapChars text.toList))) = text.toList := by
    cases w with
    | bare =>
        rw [Wrapping.wrapChars, dropQuote_of_head? fun ch hch => (h.first ch hch).2,
          dropFinalQuote_of_getLast? h.last, h.isTrimmed.trim_eq]
    | quoted mark before after =>
        have hquote : isQuote mark.char = true := mark.char_spec.1
        rw [Wrapping.wrapChars, List.cons_append, dropQuote, if_pos hquote, dropFinalQuote_concat hquote,
          Chars.trim_spaces_append, h.isTrimmed.trim_eq]
  rw [clean, cleanChars, Wrapping.toList_wrap, hbody, hinside, String.ofList_toList]

/-- A plain text is clean. -/
theorem IsPlain.clean_eq {text : String} (h : IsPlain text) : clean text = text := by
  have hbare := clean_wrap h .bare
  rwa [Wrapping.wrap, Wrapping.wrapChars, String.ofList_toList] at hbare

/-- **Cleaning takes an equals sign away**, with spaces behind it or without. -/
theorem clean_equals_append {text : String} (h : IsPlain text) (w : Wrapping) (n : Nat) :
    clean ("=" ++ String.ofList (List.replicate n ' ') ++ w.wrap text) = text := by
  have htrimmed : IsTrimmed (w.wrapChars text.toList) := w.isTrimmed_wrapChars h.isTrimmed
  have hne : w.wrapChars text.toList ≠ [] := w.wrapChars_ne_nil h.toList_ne_nil
  have hbehind : Chars.trim (List.replicate n ' ' ++ w.wrapChars text.toList) = w.wrapChars text.toList := by
    have hspaces := Chars.trim_spaces_append n (w.wrapChars text.toList) 0
    rw [List.replicate_zero, List.append_nil, htrimmed.trim_eq] at hspaces
    exact hspaces
  have hdrop : dropEquals (Chars.trim ('=' :: (List.replicate n ' ' ++ w.wrapChars text.toList))) =
      dropEquals (Chars.trim (w.wrapChars text.toList)) := by
    rw [(isTrimmed_equals_append htrimmed hne n).trim_eq, htrimmed.trim_eq,
      dropEquals_of_head?_ne (w.head?_wrapChars_ne h), dropEquals, hbehind]
  have hclean := clean_wrap h w
  rw [clean, cleanChars, Wrapping.toList_wrap, ← hdrop] at hclean
  rw [clean, cleanChars]
  simpa using hclean

/-! ### What the command is asked for -/

/-- Behind a name and a space a text is read as the text of a definition. -/
theorem ofArgs_words_space {name body : String} (hname : Text.IsWord name) (hnot : '=' ∉ name.toList)
    (hspaced : IsSpaced body.toList) (htrimmed : IsTrimmed body.toList) (hne : body ≠ "") :
    Command.AliasRequest.ofArgs (Text.words (name ++ " " ++ body)) = .define name body := by
  have hwords : Text.words (name ++ " " ++ body) = name :: Text.words body := by
    have hcut := Chars.IsWord.words_append_cons hname (c := ' ') (by decide) body.toList
    simpa [Text.words] using congrArg (List.map String.ofList) hcut
  have hsome : Text.words body ≠ [] := by
    intro hnil
    rw [Text.words, List.map_eq_nil_iff] at hnil
    exact htrimmed.words_ne_nil (by simpa using hne) hnil
  have hcut : Command.splitAtEquals name = none := Command.splitAtEquals_eq_none_iff.mpr hnot
  rw [hwords, Command.AliasRequest.ofArgs, hcut]
  simp only [Text.unwords_words hspaced htrimmed, List.isEmpty_iff, hsome, if_false]

namespace Spelling

variable {name text : String}

/-- A definition with runs of spaces has the words of one with single spaces. -/
theorem words_line_narrow (p : Spelling) (name text : String) :
    Text.words (p.line name text) = Text.words (line ⟨p.joint, p.wrapping.narrow⟩ name text) := by
  simp only [Text.words, line, String.toList_append, Wrapping.toList_wrap]
  rw [p.wrapping.words_append_wrapChars_narrow]

/-- **However it is spelled, a definition is asked for**, by a text that is cleaned to the one meant. -/
theorem exists_ofArgs_words_line (hname : Text.IsWord name) (hnot : '=' ∉ name.toList)
    (htext : IsPlain text) (p : Spelling) :
    ∃ body, Command.AliasRequest.ofArgs (Text.words (p.line name text)) = .define name body ∧
      clean body = text := by
  obtain ⟨joint, wrapping⟩ := p
  rw [words_line_narrow]
  unfold line
  have hs : IsSpaced (wrapping.narrow.wrap text).toList := by
    rw [Wrapping.toList_wrap]
    exact wrapping.isSpaced_wrapChars_narrow htext.isSpaced htext.isTrimmed htext.toList_ne_nil
  have ht : IsTrimmed (wrapping.narrow.wrap text).toList := by
    rw [Wrapping.toList_wrap]
    exact wrapping.narrow.isTrimmed_wrapChars htext.isTrimmed
  have hchars : (wrapping.narrow.wrap text).toList ≠ [] := by
    rw [Wrapping.toList_wrap]
    exact wrapping.narrow.wrapChars_ne_nil htext.toList_ne_nil
  have hne : wrapping.narrow.wrap text ≠ "" := fun h => hchars (congrArg String.toList h)
  -- an equals sign that is a word of its own, or begins one, belongs to the text that is asked for
  have hequals : ∀ n ≤ 1, ∃ body, Command.AliasRequest.ofArgs (Text.words (name ++ " " ++
      ("=" ++ String.ofList (List.replicate n ' ') ++ wrapping.narrow.wrap text))) = .define name body ∧
        clean body = text := by
    intro n hn
    refine ⟨_, ofArgs_words_space hname hnot ?_ ?_ (by simp), clean_equals_append htext _ n⟩
    · simpa using isSpaced_equals_append hs ht hn
    · simpa using isTrimmed_equals_append ht hchars n
  cases joint with
  | space => exact ⟨_, ofArgs_words_space hname hnot hs ht hne, clean_wrap htext _⟩
  | equals => exact ⟨_, ofArgs_words_equals hname hnot hs ht hne, clean_wrap htext _⟩
  | spacedEquals =>
      have hline : name ++ " = " ++ wrapping.narrow.wrap text =
          name ++ " " ++ ("=" ++ String.ofList (List.replicate 1 ' ') ++ wrapping.narrow.wrap text) := by
        apply String.toList_inj.mp
        simp
      rw [Joint.text, hline]
      exact hequals 1 (Nat.le_refl 1)
  | spaceEquals =>
      have hline : name ++ " =" ++ wrapping.narrow.wrap text =
          name ++ " " ++ ("=" ++ String.ofList (List.replicate 0 ' ') ++ wrapping.narrow.wrap text) := by
        apply String.toList_inj.mp
        simp
      rw [Joint.text, hline]
      exact hequals 0 (Nat.zero_le 1)

end Spelling

/-! ### What comes of it -/

/-- Only what is left by cleaning counts in a definition. -/
theorem defineAlias_congr {name a b : String} (h : clean a = clean b) :
    Command.defineAlias name a = Command.defineAlias name b := by
  have hdefine : ∀ t : Table, t.define name a = t.define name b := by
    intro t
    simp only [Table.define, h]
  have hnotes : ∀ r, Command.defineNotes name a r = Command.defineNotes name b r := by
    intro r
    unfold Command.defineNotes
    rw [h]
  unfold Command.defineAlias
  simp only [hdefine, hnotes]

/-- A text that is not empty is turned down only if it leads back to the name. -/
theorem eq_recursive_or_eq_circular {t : Table} {name text : String} {e : Error}
    (hne : clean text ≠ "") (h : t.define name text = .error e) :
    e = .recursive name ∨ e = .circular name := by
  unfold Table.define at h
  rw [if_neg (by simpa using hne)] at h
  split at h
  · cases h
    exact .inl rfl
  · split at h
    · cases h
      exact .inr rfl
    · cases h

/-- **The same comes of all spellings.** Take a name without an equals sign and a text that is plain. In
any state, whatever it has for aliases, the command comes to one and the same outcome for the words of the
definition in any spelling. Either it says that the alias was created, nothing is written as a diagnostic,
and the aliases are those before with exactly this text given to the name; or the definition leads back to
the name, the diagnostic says so, and the state is as before. -/
theorem run_aliases_line {name text : String} (hname : Text.IsWord name) (hnot : '=' ∉ name.toList)
    (htext : IsPlain text) (catalogue : Catalogue) (c : Context) (s : Store) :
    ∃ o : Outcome Reply,
      (∀ p : Spelling, (Command.aliases.run catalogue (Text.words (p.line name text))).run c s = o) ∧
      ((s.aliases.define name text = .ok (s.aliases.set name text) ∧
          o.result = .ok (.text s!"Alias '{name}' created") ∧
          o.store = { s with aliases := s.aliases.set name text } ∧ Event.diagnostics o.events = []) ∨
        ∃ e, (e = .recursive name ∨ e = .circular name) ∧ s.aliases.define name text = .error e ∧
          o.result = .ok .nothing ∧ o.store = s ∧ Event.diagnostics o.events = [e.message]) := by
  have hclean : clean text = text := htext.clean_eq
  have hne : name ≠ "" := by
    rintro rfl
    exact hname.ne_nil rfl
  refine ⟨(Command.defineAlias name text).run c s, fun p => ?_, ?_⟩
  · obtain ⟨body, hasked, hbody⟩ := p.exists_ofArgs_words_line hname hnot htext
    have hrun : Command.aliases.run catalogue (Text.words (p.line name text)) =
        Command.runAlias (.ofArgs (Text.words (p.line name text))) := rfl
    rw [hrun, hasked, Command.runAlias, defineAlias_congr (hbody.trans hclean.symm)]
  · cases hdefine : s.aliases.define name text with
    | ok t =>
        obtain rfl : t = s.aliases.set name text := by rw [Table.eq_set_of_define hdefine, hclean]
        left
        rw [run_defineAlias_of_define hne c hdefine]
        exact ⟨rfl, rfl, rfl, rfl⟩
    | error e =>
        have htextne : clean text ≠ "" := by
          rw [hclean]
          exact fun h => htext.toList_ne_nil (congrArg String.toList h)
        have hcause := eq_recursive_or_eq_circular htextne hdefine
        right
        rw [run_defineAlias_of_error hne c hdefine]
        refine ⟨e, hcause, rfl, rfl, rfl, ?_⟩
        -- notes are no diagnostics
        rcases hcause with rfl | rfl
        · rfl
        · rfl

/-- Two spellings of a definition: they are turned down where the text leads back to the name by way of
another alias, and elsewhere the text is stored without its marks and blanks. -/
theorem run_aliases_line_of_two_tables :
    Text.IsWord "ll" ∧ '=' ∉ "ll".toList ∧ IsPlain "ls -l" ∧
      (∀ (c : Context) (s : Store), s.aliases = .ofList [("ls", "ll -a")] → ∃ o : Outcome Reply,
        (Command.aliases.run [] (Text.words "ll=ls -l")).run c s = o ∧
          (Command.aliases.run [] (Text.words "ll = \"  ls -l \"")).run c s = o ∧ o.store = s ∧
          Event.diagnostics o.events = ["Error: Circular alias detected for 'll'"]) ∧
      ∀ (c : Context) (s : Store), s.aliases = .ofList [("la", "ls -a")] → ∃ o : Outcome Reply,
        (Command.aliases.run [] (Text.words "ll=ls -l")).run c s = o ∧
          (Command.aliases.run [] (Text.words "ll = \"  ls -l \"")).run c s = o ∧
          o.result = .ok (.text "Alias 'll' created") ∧
          o.store = { s with aliases := .ofList [("la", "ls -a"), ("ll", "ls -l")] } ∧
          Event.diagnostics o.events = [] := by
  have hname : Text.IsWord "ll" := by decide +kernel
  have hnot : '=' ∉ "ll".toList := by decide +kernel
  have hfirst : "ls -l".toList.head? = some 'l' := by decide +kernel
  have hlast : "ls -l".toList.getLast? = some 'l' := by decide +kernel
  have hletter : 'l' ≠ '=' ∧ isQuote 'l' = false := by decide
  have htext : IsPlain "ls -l" :=
    ⟨⟨["ls", "-l"], by decide, by decide +kernel, by decide +kernel⟩, by simpa [hfirst] using hletter,
      by simpa [hlast] using hletter.2⟩
  have hbare : (Spelling.line ⟨.equals, .bare⟩ "ll" "ls -l") = "ll=ls -l" := by decide +kernel
  have hquoted : (Spelling.line ⟨.spacedEquals, .quoted .double 2 1⟩ "ll" "ls -l") =
      "ll = \"  ls -l \"" := by decide +kernel
  refine ⟨hname, hnot, htext, fun c s hs => ?_, fun c s hs => ?_⟩
  · have hcircular : s.aliases.define "ll" "ls -l" = .error (.circular "ll") := by
      rw [hs]
      decide +kernel
    obtain ⟨o, hall, hend⟩ := run_aliases_line hname hnot htext [] c s
    refine ⟨o, hbare ▸ hall _, hquoted ▸ hall _, ?_⟩
    rcases hend with ⟨haccepted, -⟩ | ⟨e, -, herror, -, hstore, hsaid⟩
    · rw [hcircular] at haccepted
      cases haccepted
    · rw [hcircular] at herror
      cases herror
      exact ⟨hstore, hsaid⟩
  · have hset : s.aliases.set "ll" "ls -l" = .ofList [("la", "ls -a"), ("ll", "ls -l")] := by
      rw [hs]
      decide +kernel
    have hdefine : s.aliases.define "ll" "ls -l" = .ok (s.aliases.set "ll" "ls -l") := by
      rw [hs]
      decide +kernel
    obtain ⟨o, hall, hend⟩ := run_aliases_line hname hnot htext [] c s
    refine ⟨o, hbare ▸ hall _, hquoted ▸ hall _, ?_⟩
    rcases hend with ⟨-, hanswer, hstore, hsaid⟩ | ⟨e, -, herror, -⟩
    · rw [hset] at hstore
      exact ⟨hanswer, hstore, hsaid⟩
    · rw [hdefine] at herror
      cases herror

end Alias

end LineShell
