import LineShell.Command.Alias
import LineShell.Proofs.Alias.Resolution

/-!
# Aliases that are shown

An alias is shown as its name, an equals sign, and its text between quotation marks. Nothing in the text
is escaped, and what is shown is read back by cutting it into words, cutting the first word at its first
equals sign, putting the words together again with single spaces, and stripping quotation marks. That the
alias comes back all the same is because the command `alias` stores no others than those for which each
of these steps is undone by another one (`IsFaithful`): a name is a word without an equals sign, and a
text is made of words with single spaces in between. It may well hold quotation marks and equals signs.

A table of such aliases can be defined once more from what is shown of it, in the same order, because
the first aliases of a table without loops make no loop either (`Table.IsAcyclic.of_isPrefix`). Only an
alias for the command `alias` itself would be in the way of those behind it. There is none behind it,
since nothing can be defined any more once the command has another meaning (`Table.IsRestorable`).

Main statements: `IsFaithful.ofArgs_words_showAlias` (what is shown of an alias is read as its
definition), `Table.IsRestorable.define_quote` (this definition is accepted) and
`Table.IsRestorable.attempt` (no other tables come about).
-/

namespace LineShell

/-! ### Cleaning -/

namespace Alias

theorem dropEquals_isInfix (cs : List Char) : dropEquals cs <:+: cs := by
  unfold dropEquals
  split
  · exact (Chars.trim_isInfix _).trans (List.suffix_cons _ _).isInfix
  · exact List.infix_rfl

theorem dropQuote_isSuffix (cs : List Char) : dropQuote cs <:+ cs := by
  unfold dropQuote
  split
  · exact List.suffix_rfl
  · split
    · exact List.suffix_cons _ _
    · exact List.suffix_rfl

theorem dropFinalQuote_isPrefix (cs : List Char) : dropFinalQuote cs <+: cs := by
  rw [← List.reverse_suffix, dropFinalQuote, List.reverse_reverse]
  exact dropQuote_isSuffix _

/-- Cleaning takes something from either end only. -/
theorem cleanChars_isInfix (cs : List Char) : cleanChars cs <:+: cs :=
  (Chars.trim_isInfix _).trans <| (dropFinalQuote_isPrefix _).isInfix.trans <|
    (dropQuote_isSuffix _).isInfix.trans <| (dropEquals_isInfix _).trans <| Chars.trim_isInfix cs

/-- A text between quotation marks. -/
def quote (text : String) : String := "'" ++ text ++ "'"

theorem toList_quote (text : String) : (quote text).toList = '\'' :: (text.toList ++ ['\'']) := by
  simp [quote]

/-- Quotation marks are no blanks. -/
theorem isTrimmed_quote (text : String) : Chars.IsTrimmed (quote text).toList := by
  rw [toList_quote]
  refine ⟨Chars.isFlush_cons.mpr (by decide), ?_⟩
  rw [List.reverse_cons, List.reverse_append]
  exact Chars.isFlush_cons.mpr (by decide)

/-- Quotation marks keep blanks apart. -/
theorem isSpaced_quote {text : String} (h : Chars.IsSpaced text.toList) :
    Chars.IsSpaced (quote text).toList := by
  have hmark : ∀ c ∈ ['\''], isBlank c = false := List.forall_mem_singleton.mpr (by decide)
  have hspaced : Chars.IsSpaced ['\''] := Chars.isSpaced_of_not_isBlank hmark
  have hflush : Chars.IsFlush ['\''] := Chars.isFlush_of_not_isBlank hmark
  rw [toList_quote, ← List.singleton_append]
  exact hspaced.append (h.append hspaced (.inr hflush)) (.inl hflush)

theorem quote_ne_empty (text : String) : quote text ≠ "" := by
  intro h
  have hchars := congrArg String.toList h
  rw [toList_quote] at hchars
  cases hchars

/-- Cleaning undoes the quotation. -/
theorem clean_quote {text : String} (h : Chars.IsTrimmed text.toList) : clean (quote text) = text := by
  have hquotes : dropFinalQuote (dropQuote (dropEquals (quote text).toList)) = text.toList := by
    rw [toList_quote, dropEquals, dropQuote, if_pos (by decide), dropFinalQuote, List.reverse_append]
    · simp [dropQuote, isQuote]
    · simp
  rw [clean, cleanChars, (isTrimmed_quote text).trim_eq, hquotes, h.trim_eq, String.ofList_toList]

/-! ### Faithful aliases -/

/-- Whether an alias can be read back from what is shown of it. -/
structure IsFaithful (name text : String) : Prop where
  /-- The name is a word. -/
  isWord : Text.IsWord name
  /-- It has no equals sign. -/
  not_mem : '=' ∉ name.toList
  /-- The text is not empty. -/
  ne_empty : text ≠ ""
  /-- Every blank in it is a space that stands by itself. -/
  isSpaced : Chars.IsSpaced text.toList
  /-- It neither begins nor ends with a blank. -/
  isTrimmed : Chars.IsTrimmed text.toList

/-- What the command takes from its arguments: a name without an equals sign, and a text in which every
blank stands by itself. -/
theorem isSpaced_of_ofArgs {args : List String} (hargs : ∀ w ∈ args, Text.IsWord w) {name text : String}
    (h : Command.AliasRequest.ofArgs args = .define name text) :
    (∀ c ∈ name.toList, isBlank c = false) ∧ '=' ∉ name.toList ∧ Chars.IsSpaced text.toList := by
  cases args with
  | nil => cases h
  | cons w ws =>
      have hw : Text.IsWord w := hargs w List.mem_cons_self
      have hws : ∀ v ∈ ws, Text.IsWord v := fun v hv => hargs v (List.mem_cons_of_mem _ hv)
      rw [Command.AliasRequest.ofArgs] at h
      cases hcut : Command.splitAtEquals w with
      | some p =>
          obtain ⟨first, head⟩ := p
          rw [hcut] at h
          cases h
          obtain ⟨rfl, hnot⟩ := Command.splitAtEquals_eq_some_iff.mp hcut
          refine ⟨fun c hc => hw.not_isBlank c (by simp [hc]), hnot, ?_⟩
          exact Text.isSpaced_unwords_cons (fun c hc => hw.not_isBlank c (by simp [hc])) hws
      | none =>
          rw [hcut] at h
          cases ws with
          | nil => cases h
          | cons v ws =>
              cases h
              refine ⟨hw.not_isBlank, Command.splitAtEquals_eq_none_iff.mp hcut, ?_⟩
              exact Text.isSpaced_unwords_cons (hws v List.mem_cons_self).not_isBlank
                fun u hu => hws u (List.mem_cons_of_mem _ hu)

/-- **The command stores faithful aliases only.** -/
theorem isFaithful_of_ofArgs {args : List String} (hargs : ∀ w ∈ args, Text.IsWord w)
    {name text : String} (h : Command.AliasRequest.ofArgs args = .define name text) (hname : name ≠ "")
    (htext : clean text ≠ "") : IsFaithful name (clean text) := by
  obtain ⟨hblank, hnot, hspaced⟩ := isSpaced_of_ofArgs hargs h
  refine ⟨⟨by simpa using hname, hblank⟩, hnot, htext, ?_, ?_⟩
  · rw [clean, String.toList_ofList]
    exact hspaced.of_isInfix (cleanChars_isInfix _)
  · rw [clean, String.toList_ofList]
    exact Chars.isTrimmed_trim _

/-- What is shown of an alias. -/
theorem showAlias_eq (name text : String) :
    Command.showAlias (name, text) = name ++ "=" ++ quote text := by
  show name ++ "='" ++ text ++ "'" = name ++ "=" ++ ("'" ++ text ++ "'")
  simp [← String.toList_inj]

/-- Behind a name and an equals sign a text is read as the text of a definition. -/
theorem ofArgs_words_equals {name body : String} (hname : Text.IsWord name) (hnot : '=' ∉ name.toList)
    (hspaced : Chars.IsSpaced body.toList) (htrimmed : Chars.IsTrimmed body.toList) (hne : body ≠ "") :
    Command.AliasRequest.ofArgs (Text.words (name ++ "=" ++ body)) = .define name body := by
  have hbefore : ∀ c ∈ (name ++ "=").toList, isBlank c = false := by
    intro c hc
    rcases List.mem_append.mp (String.toList_append ▸ hc) with hc | hc
    · exact hname.not_isBlank c hc
    · rw [List.mem_singleton.mp hc]
      decide
  obtain ⟨w, ws, hbody, hwords⟩ := Text.exists_words_append hbefore hspaced htrimmed hne
  have hcut : Command.splitAtEquals (name ++ "=" ++ w) = some (name, w) :=
    Command.splitAtEquals_eq_some_iff.mpr ⟨rfl, hnot⟩
  rw [hwords, Command.AliasRequest.ofArgs, hcut]
  simp only [← hbody, Text.unwords_words hspaced htrimmed]

/-- **What is shown of an alias is read as its definition.** -/
theorem IsFaithful.ofArgs_words_showAlias {name text : String} (h : IsFaithful name text) :
    Command.AliasRequest.ofArgs (Text.words (Command.showAlias (name, text))) =
      .define name (quote text) := by
  rw [showAlias_eq]
  exact ofArgs_words_equals h.isWord h.not_mem (isSpaced_quote h.isSpaced) (isTrimmed_quote text)
    (quote_ne_empty text)

/-! ### Tables -/

namespace Table

/-- A table with the steps of another one has its walks. -/
theorem Reaches.mono {t u : Table} (h : ∀ a b, t.next? a = some b → u.next? a = some b) {a b : String}
    (hab : t.Reaches a b) : u.Reaches a b := by
  induction hab with
  | step hstep => exact .step (h _ _ hstep)
  | head hstep _ ih => exact .head (h _ _ hstep) ih

/-- The first aliases of a table lead where they lead in the table. -/
theorem next?_of_isPrefix {t u : Table} (h : t.entries <+: u.entries) {a b : String}
    (hab : t.next? a = some b) : u.next? a = some b := by
  obtain ⟨text, hlookup, rfl⟩ := Option.map_eq_some_iff.mp hab
  obtain ⟨rest, hrest⟩ := h
  have hlookup' : u.lookup a = some text := by
    rw [lookup] at hlookup
    rw [lookup, ← hrest, List.lookup_append, hlookup, Option.some_or]
  rw [next?, hlookup', Option.map_some]

/-- The first aliases of a table without loops make no loop. -/
theorem IsAcyclic.of_isPrefix {t u : Table} (hu : u.IsAcyclic) (h : t.entries <+: u.entries) :
    t.IsAcyclic :=
  fun a ha => hu a (ha.mono fun _ _ => next?_of_isPrefix h)

/-- Whether a table can be defined once more from what is shown of it. -/
structure IsRestorable (t : Table) : Prop where
  /-- It came about by definitions. -/
  isDefined : t.IsDefined
  /-- Its aliases can be read back. -/
  isFaithful : ∀ e ∈ t.entries, IsFaithful e.1 e.2
  /-- No alias stands behind one for the command that defines aliases. -/
  not_mem_dropLast : "alias" ∉ t.names.dropLast

theorem isRestorable_empty : IsRestorable .empty :=
  ⟨.empty, List.forall_mem_nil _, List.not_mem_nil⟩

/-- **No other tables come about**, as long as the command has its own meaning and takes faithful
aliases only. -/
theorem IsRestorable.attempt {t : Table} (ht : t.IsRestorable) (hshadow : "alias" ∉ t.names)
    {name text : String} (hnew : clean text ≠ "" → IsFaithful name (clean text)) :
    (t.attempt name text).IsRestorable := by
  unfold Table.attempt
  cases h : t.define name text with
  | error e => exact ht
  | ok u =>
      obtain ⟨hne, -, rfl⟩ := define_eq_ok_iff.mp h
      refine ⟨.define ht.isDefined h, ?_, ?_⟩
      · intro e he
        rw [entries_set] at he
        split at he
        · obtain ⟨old, hold, rfl⟩ := List.mem_map.mp he
          split
          · exact hnew hne
          · exact ht.isFaithful old hold
        · rcases List.mem_append.mp he with he | he
          · exact ht.isFaithful e he
          · rw [List.mem_singleton.mp he]
            exact hnew hne
      · rw [names_set]
        split
        · exact fun hmem => hshadow (List.mem_of_mem_dropLast hmem)
        · rwa [List.dropLast_concat]

/-- While a table is defined once more the command has its own meaning. -/
theorem IsRestorable.not_mem_names {t u : Table} (ht : t.IsRestorable) {e : String × String}
    {todo : List (String × String)} (hsplit : t.entries = u.entries ++ e :: todo) :
    "alias" ∉ u.names := by
  intro hmem
  refine ht.not_mem_dropLast ?_
  rw [names, hsplit, List.map_append, List.map_cons, List.dropLast_append_cons]
  exact List.mem_append_left _ hmem

/-- **The next alias of a table is accepted** behind those before it, if it is defined by its quoted
text. It gets the text itself, and the last place. -/
theorem IsRestorable.define_quote {t u : Table} (ht : t.IsRestorable) {name text : String}
    {todo : List (String × String)} (hsplit : t.entries = u.entries ++ (name, text) :: todo) :
    ∃ v, u.define name (quote text) = .ok v ∧ v.entries = u.entries ++ [(name, text)] ∧
      clean (quote text) = text := by
  have hfaithful : IsFaithful name text := ht.isFaithful (name, text) (by simp [hsplit])
  have hclean : clean (quote text) = text := clean_quote hfaithful.isTrimmed
  have hnew : name ∉ u.names := by
    have hnodup := t.nodup
    rw [hsplit, List.map_append, List.nodup_append] at hnodup
    exact fun hmem => hnodup.2.2 name hmem name (by simp) rfl
  have hentries : (u.set name text).entries = u.entries ++ [(name, text)] := by
    rw [entries_set, if_neg hnew]
  -- the aliases so far and this one are the first ones of the table
  have hacyclic : (u.set name text).IsAcyclic := by
    refine ht.isDefined.isAcyclic.of_isPrefix ⟨todo, ?_⟩
    rw [hentries, hsplit, List.append_assoc, List.singleton_append]
  refine ⟨u.set name text, define_eq_ok_iff.mpr ?_, hentries, hclean⟩
  rw [hclean]
  exact ⟨hfaithful.ne_empty, hacyclic name, rfl⟩

end Table

end Alias

end LineShell
