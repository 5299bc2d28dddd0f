import LineShell.Proofs.Alias.Resolution
import LineShell.Session.Basic

/-!
# Aliases stand for their words

A segment that begins with an alias, and the segment that spells out the words that the alias resolves
to, come to the same. The two go different ways. The first one resolves its head to several words and
carries the rest of the segment along, and the second one resolves its head to itself and finds all the
other words in the rest. A command of the shell is given the words of both parts, and a child the text of
both, so neither can tell where the cut was (`dispatch_unwords`).

That the second head resolves to itself is because the first was resolved to the end: what it leads to
is no alias.

**Main statement** (`perform_execute_unwords`): the two segments have the same outcome in every session
whose aliases came about by definitions.
-/

namespace LineShell

/-! ### Words on the way -/

namespace Alias.Table

/-- What is collected on the way through aliases is words. -/
theorem isWord_of_mem_trailing {t : Table} {names : List String} {w : String}
    (h : w ∈ names.flatMap t.trailing) : Text.IsWord w := by
  obtain ⟨name, -, hw⟩ := List.mem_flatMap.mp h
  exact Text.isWord_of_mem_words (List.mem_of_mem_tail hw)

/-- An alias leads to a word. -/
theorem IsDefined.isWord_of_next? {t : Table} (ht : t.IsDefined) {name next : String}
    (h : t.next? name = some next) : Text.IsWord next := by
  obtain ⟨text, hlookup, rfl⟩ := Option.map_eq_some_iff.mp h
  refine Text.isWord_of_mem_words (s := text) ?_
  have hwords := ht.words_ne_nil hlookup
  unfold Text.firstWord
  cases hcut : Text.words text with
  | nil => exact absurd hcut hwords
  | cons v vs => simp

/-- A word leads to a word. -/
theorem Leads.isWord_last {t : Table} (ht : t.IsDefined) {name last : String} {names : List String}
    (h : t.Leads name names last) (hname : Text.IsWord name) : Text.IsWord last := by
  induction h with
  | stop _ => exact hname
  | step hstep _ ih => exact ih (ht.isWord_of_next? hstep)

/-- What a word resolves to: a word that is no alias, with other words behind it. -/
theorem IsDefined.exists_of_resolve {t : Table} (ht : t.IsDefined) {maxPasses : Int} {head : String}
    (hhead : Text.IsWord head) {ws : List String} (h : t.resolve maxPasses [head] = .ok ws) :
    ∃ name rest, ws = name :: rest ∧ t.next? name = none ∧ 1 ≤ maxPasses ∧
      ∀ w ∈ ws, Text.IsWord w := by
  obtain ⟨names, last, hleads⟩ := ht.isAcyclic.exists_leads head
  rw [hleads.resolve_eq ht] at h
  split at h
  · next hpasses =>
    cases h
    refine ⟨last, _, rfl, hleads.next?_last, by omega, ?_⟩
    intro w hw
    rcases List.mem_cons.mp hw with rfl | hw
    · exact hleads.isWord_last ht hhead
    · exact isWord_of_mem_trailing hw
  · cases h

end Alias.Table

namespace Session

/-! ### The rest of a segment -/

/-- The rest of a segment as a last word, if there is any. -/
def restWords (rest : String) : List String := if rest.isEmpty then [] else [rest]

/-- A text with the rest of a segment behind it, and a space in between if there is any. -/
def withRest (text rest : String) : String := if rest.isEmpty then text else text ++ " " ++ rest

@[simp] theorem unwords_restWords (rest : String) : Text.unwords (restWords rest) = rest := by
  unfold restWords
  split
  · next h => exact (String.isEmpty_iff.mp h).symm
  · exact Text.unwords_singleton rest

/-- Behind words the rest is one word more. -/
theorem withRest_unwords {ws : List String} (h : ws ≠ []) (rest : String) :
    withRest (Text.unwords ws) rest = Text.unwords (ws ++ restWords rest) := by
  unfold withRest restWords
  split
  · rw [List.append_nil]
  · rw [Text.unwords, Text.unwords, String.intercalate_append_of_ne_nil h (List.cons_ne_nil _ _),
      String.intercalate_singleton]

/-- What follows a first word begins with no blank, if the rest does not. -/
theorem isFlush_unwords_append {ws : List String} (hws : ∀ w ∈ ws, Text.IsWord w) {rest : String}
    (hrest : Chars.IsFlush rest.toList) :
    Chars.IsFlush (Text.unwords (ws ++ restWords rest)).toList := by
  cases ws with
  | nil => rwa [List.nil_append, unwords_restWords]
  | cons w ws => exact Text.isFlush_unwords_cons (hws w List.mem_cons_self) _

/-- Words with a rest behind them are cut behind the first word. -/
theorem headAndRest_withRest {name : String} {ws : List String}
    (hws : ∀ w ∈ name :: ws, Text.IsWord w) {rest : String} (hrest : Chars.IsFlush rest.toList) :
    Text.headAndRest (withRest (Text.unwords (name :: ws)) rest) =
      some (name, Text.unwords (ws ++ restWords rest)) := by
  have hflush := isFlush_unwords_append (fun w hw => hws w (List.mem_cons_of_mem _ hw)) hrest
  rw [withRest_unwords (List.cons_ne_nil name ws), List.cons_append]
  exact Text.headAndRest_unwords_cons (hws name List.mem_cons_self) hflush

/-- Words with a rest behind them are nothing only where there are no words and no rest. -/
theorem append_restWords_eq_nil {ws : List String} (hws : ∀ w ∈ ws, Text.IsWord w) {rest : String}
    (h : Text.unwords (ws ++ restWords rest) = "") : ws ++ restWords rest = [] := by
  cases ws with
  | nil =>
      rw [List.nil_append, unwords_restWords] at h
      subst h
      rfl
  | cons w ws =>
      have hw : Text.IsWord w := hws w List.mem_cons_self
      have hwords := congrArg Text.words h
      rw [Text.words_unwords_append hws] at hwords
      cases hwords

/-- What is no command of the shell goes to a child, with its words and the rest. -/
theorem dispatch_of_lookup_eq_none {cs : Commands} {name : String} (h : cs.lookup name = none)
    (ws : List String) (rest : String) :
    dispatch cs rest (name :: ws) = runExternal (Text.unwords (name :: ws ++ restWords rest)) := by
  rw [dispatch, h]
  rfl

/-- **Where the words are cut does not matter** to what a name is dispatched to. -/
theorem dispatch_unwords (cs : Commands) {name : String} {ws : List String}
    (hws : ∀ w ∈ ws, Text.IsWord w) (rest : String) :
    dispatch cs (Text.unwords (ws ++ restWords rest)) [name] = dispatch cs rest (name :: ws) := by
  have hwords : Text.words (Text.unwords (ws ++ restWords rest)) = ws ++ Text.words rest := by
    rw [Text.words_unwords_append hws, unwords_restWords]
  have htext : Text.unwords ([name] ++ restWords (Text.unwords (ws ++ restWords rest))) =
      Text.unwords (name :: ws ++ restWords rest) := by
    rw [← withRest_unwords (List.cons_ne_nil name []), Text.unwords_singleton, List.cons_append]
    unfold withRest
    split
    · next h =>
      rw [append_restWords_eq_nil hws (String.isEmpty_iff.mp h), Text.unwords_singleton]
    · next h =>
      refine (Text.unwords_cons_of_ne_nil name ?_).symm
      intro hnil
      rw [hnil] at h
      exact h rfl
  -- a command of the shell looks at the words only, and a child at the text only
  cases hlookup : cs.lookup name with
  | some command => simp only [dispatch, hlookup, hwords, List.nil_append]
  | none => rw [dispatch_of_lookup_eq_none hlookup, dispatch_of_lookup_eq_none hlookup, htext]

/-! ### Two segments -/

/-- **An alias stands for its words.** In every session whose aliases came about by definitions, a
segment that begins with a word, with a rest behind it or without, comes to the same as the segment in
which the words that it resolves to are spelled out before that rest: with the same success or fault, the
same state left, and the same texts, diagnostics and command lines on the way. -/
theorem perform_execute_unwords {s : Session} (hs : s.store.aliases.IsDefined) (host : Host)
    {head : String} (hhead : Text.IsWord head) {ws : List String}
    (hresolve : s.store.aliases.resolve s.store.maxPasses [head] = .ok ws) {rest : String}
    (hrest : Chars.IsFlush rest.toList) :
    s.perform host (execute s.commands (withRest head rest)) =
      s.perform host (execute s.commands (withRest (Text.unwords ws) rest)) := by
  obtain ⟨name, ts, rfl, hnext, hpasses, hws⟩ := hs.exists_of_resolve hhead hresolve
  have hself : s.store.aliases.resolve s.store.maxPasses [name] = .ok [name] :=
    hs.resolve_self hnext hpasses
  have hshort : Text.headAndRest (withRest head rest) = some (head, rest) := by
    have hcut : Text.headAndRest (withRest (Text.unwords [head]) rest) =
        some (head, Text.unwords ([] ++ restWords rest)) :=
      headAndRest_withRest (by simpa using hhead) hrest
    rwa [Text.unwords_singleton, List.nil_append, unwords_restWords] at hcut
  have hts : ∀ w ∈ ts, Text.IsWord w := fun w hw => hws w (List.mem_cons_of_mem _ hw)
  rw [perform, perform, run_execute_of_resolve hshort _ hresolve,
    run_execute_of_resolve (headAndRest_withRest hws hrest) _ hself, dispatch_unwords _ hts]

/-- An alias of an alias, with a rest that holds blanks of its own: a child is given the line with the words
spelled out before that rest, as it is without the alias. -/
theorem perform_execute_list_hidden :
    ∃ s : Session, s.store.aliases.IsDefined ∧
      s.store.aliases.entries = [("l", "ls -l"), ("la", "l  -a")] ∧
      s.store.aliases.resolve s.store.maxPasses ["la"] = .ok ["ls", "-l", "-a"] ∧
      s.perform (.always (.finished 0 "" "")) (execute s.commands "la x  'y z' ") =
        s.perform (.always (.finished 0 "" "")) (execute s.commands "ls -l -a x  'y z' ") ∧
      Event.calls (s.perform (.always (.finished 0 "" "")) (execute s.commands "la x  'y z' ")).events =
        [("ls -l -a x  'y z' ", none)] := by
  have ht := Alias.Table.isDefined_afterAttempts [("l", "ls -l"), ("la", "l  -a")]
  let start := fresh builtins .default .empty
  let s := start.withStore
    { start.store with aliases := .afterAttempts [("l", "ls -l"), ("la", "l  -a")] }
  have hresolve : s.store.aliases.resolve s.store.maxPasses ["la"] = .ok ["ls", "-l", "-a"] := by
    decide +kernel
  have hhead : Text.IsWord "la" := by decide +kernel
  have hrest : Chars.IsFlush "x  'y z' ".toList := Chars.isFlush_cons.mpr (by decide)
  have hsame := perform_execute_unwords (s := s) ht (.always (.finished 0 "" "")) hhead hresolve hrest
  exact ⟨s, ht, by decide +kernel, hresolve, hsame, by decide +kernel⟩

end Session

end LineShell
