import LineShell.Proofs.Alias.Acyclic
import LineShell.Proofs.Text.Words
import LineShell.Session.Execute
import Mathlib.Data.Fintype.Card
import Mathlib.Data.Fintype.EquivFin
import Mathlib.Data.Fintype.Sets

/-!
# What a command resolves to

An alias leads to the first word of its text, that word may be an alias itself, and so on. In a table
that came about by definitions this ends: there is no loop, so a name leads through finitely many aliases
to one that is none (`Table.Leads`, `Table.IsDefined.exists_leads`).

Resolution follows these steps, one in each pass. A pass replaces the leading word by the next name and
puts the other words of the text before what was collected so far, so the words of the alias that was met
last come first. One pass more finds nothing to replace and ends the search. No name is met twice on the
way, so a loop is never reported.

**Main statement** (`resolve_eq_of_isDefined`): what a name resolves to, for any number of passes, and
what becomes of a segment that begins with it.
-/

namespace LineShell

namespace Alias

namespace Table

/-! ### Tables that were defined -/

/-- Defined tables stay defined, whatever is attempted. -/
theorem IsDefined.attempt {t : Table} (ht : t.IsDefined) (name text : String) :
    (t.attempt name text).IsDefined := by
  unfold Table.attempt
  cases h : t.define name text with
  | error e => exact ht
  | ok u => exact .define ht h

/-- Attempts lead to defined tables. -/
theorem isDefined_afterAttempts (ds : List (String × String)) : (afterAttempts ds).IsDefined := by
  induction ds using List.reverseRecOn with
  | nil => exact .empty
  | append_singleton ds d ih =>
      rw [afterAttempts_append]
      exact ih.attempt d.1 d.2

/-- A defined table has no loop. -/
theorem IsDefined.isAcyclic {t : Table} (ht : t.IsDefined) : t.IsAcyclic := by
  induction ht with
  | empty => exact isAcyclic_empty
  | @define t u name text before accepted ih =>
      have hattempt : t.attempt name text = u := by rw [Table.attempt, accepted]
      exact hattempt ▸ ih.attempt name text

/-- A text that was cleaned has a word, unless nothing is left of it. -/
theorem words_clean_ne_nil {text : String} (h : clean text ≠ "") : Text.words (clean text) ≠ [] := by
  have hne : cleanChars text.toList ≠ [] := by
    intro hnil
    exact h (by rw [clean, hnil])
  have hwords : Chars.words (cleanChars text.toList) ≠ [] :=
    (Chars.isTrimmed_trim _).words_ne_nil hne
  rw [Text.words, clean, String.toList_ofList]
  simpa using hwords

/-- The texts in a defined table have words. -/
theorem IsDefined.words_ne_nil {t : Table} (ht : t.IsDefined) {name text : String}
    (h : t.lookup name = some text) : Text.words text ≠ [] := by
  induction ht with
  | empty => cases h
  | @define t u new given before accepted ih =>
      obtain ⟨hne, -, rfl⟩ := define_eq_ok_iff.mp accepted
      by_cases hname : name = new
      · subst hname
        rw [lookup_set_self, Option.some.injEq] at h
        subst h
        exact words_clean_ne_nil hne
      · rw [t.lookup_set_of_ne _ hname] at h
        exact ih h

/-! ### Single passes -/

/-- The words of an alias behind the first. -/
def trailing (t : Table) (name : String) : List String :=
  (Text.words ((t.lookup name).getD "")).tail

/-- What is no alias is not expanded. -/
theorem expand_of_next?_eq_none {t : Table} {name : String} (h : t.next? name = none)
    (ws : List String) : t.expand (name :: ws) = name :: ws := by
  have hlookup : t.lookup name = none := by simpa [next?] using h
  rw [expand, hlookup]

/-- An alias is replaced by the name it leads to, with the other words of its text behind that. -/
theorem IsDefined.expand_of_next? {t : Table} (ht : t.IsDefined) {name next : String}
    (h : t.next? name = some next) (ws : List String) :
    t.expand (name :: ws) = next :: (t.trailing name ++ ws) := by
  obtain ⟨text, hlookup, rfl⟩ := Option.map_eq_some_iff.mp h
  have hwords := ht.words_ne_nil hlookup
  have hne : ¬ text.isEmpty = true := by
    intro hempty
    rw [String.isEmpty_iff] at hempty
    subst hempty
    exact hwords rfl
  rw [expand, hlookup]
  simp only [if_neg hne, trailing, hlookup, Option.getD_some, Text.firstWord]
  cases hcut : Text.words text with
  | nil => exact absurd hcut hwords
  | cons v vs => rfl

/-! ### Chains of aliases -/

/-- Whether a name leads through these aliases, one after another, to a name that is none. -/
inductive Leads (t : Table) : String → List String → String → Prop where
  /-- The name is no alias. -/
  | stop {name : String} (h : t.next? name = none) : t.Leads name [] name
  /-- The name is an alias, and the name it leads to leads on. -/
  | step {name next last : String} {names : List String} (h : t.next? name = some next)
      (rest : t.Leads next names last) : t.Leads name (name :: names) last

/-- A name leads to one name, through the same aliases at all times. -/
theorem Leads.unique {t : Table} {name last last' : String} {names names' : List String}
    (h : t.Leads name names last) (h' : t.Leads name names' last') :
    names = names' ∧ last = last' := by
  induction h generalizing names' with
  | stop hstop =>
      cases h' with
      | stop _ => exact ⟨rfl, rfl⟩
      | step hstep _ => rw [hstop] at hstep; cases hstep
  | step hstep _ ih =>
      cases h' with
      | stop hstop => rw [hstep] at hstop; cases hstop
      | step hstep' rest' =>
          rw [hstep] at hstep'
          cases hstep'
          obtain ⟨rfl, rfl⟩ := ih rest'
          exact ⟨rfl, rfl⟩

/-- The last name of a chain is no alias. -/
theorem Leads.next?_last {t : Table} {name last : String} {names : List String}
    (h : t.Leads name names last) : t.next? last = none := by
  induction h with
  | stop hstop => exact hstop
  | step _ _ ih => exact ih

/-- The names that lead on are those of the table. -/
theorem next?_eq_none_iff {t : Table} {name : String} : t.next? name = none ↔ name ∉ t.names := by
  rw [next?, Option.map_eq_none_iff, lookup, List.lookup_eq_none_iff, names, List.mem_map, not_exists]
  refine forall_congr' fun e => ?_
  rw [not_and, bne_iff_ne, ne_comm]

/-- A name that leads on is in the table. -/
theorem mem_names_of_next? {t : Table} {name next : String} (h : t.next? name = some next) :
    name ∈ t.names := by
  by_contra hnot
  rw [next?_eq_none_iff.mpr hnot] at h
  cases h

/-- Without a loop the steps between the names of a table come to an end. -/
theorem IsAcyclic.wellFounded {t : Table} (ht : t.IsAcyclic) :
    WellFounded fun a b : { name // name ∈ t.names } => t.Reaches b.1 a.1 := by
  have : IsTrans { name // name ∈ t.names } fun a b => t.Reaches b.1 a.1 :=
    ⟨fun _ _ _ hab hbc => hbc.trans hab⟩
  have : Std.Irrefl fun a b : { name // name ∈ t.names } => t.Reaches b.1 a.1 := ⟨fun a => ht a.1⟩
  exact Finite.wellFounded_of_trans_of_irrefl _

/-- **Every name leads somewhere**, if there is no loop. -/
theorem IsAcyclic.exists_leads {t : Table} (ht : t.IsAcyclic) (name : String) :
    ∃ names last, t.Leads name names last := by
  cases hnext : t.next? name with
  | none => exact ⟨_, _, .stop hnext⟩
  | some next =>
      -- the induction is over the names of the table, which the last name is not among
      induction hname : (⟨name, mem_names_of_next? hnext⟩ : { name // name ∈ t.names })
        using ht.wellFounded.induction generalizing name next with
      | _ a ih =>
        subst hname
        cases hnext' : t.next? next with
        | none => exact ⟨_, _, .step hnext (.stop hnext')⟩
        | some next' =>
            obtain ⟨names, last, hleads⟩ :=
              ih ⟨next, mem_names_of_next? hnext'⟩ (.step hnext) next next' hnext' rfl
            exact ⟨_, _, .step hnext hleads⟩

/-! ### All passes -/

/-- **What passes come to** from a name on that leads somewhere, if no name that can be reached was met
before. The words that were collected so far stay behind those that are collected on the way. -/
theorem Leads.resolveFrom_eq {t : Table} (ht : t.IsDefined) {name last : String} {names : List String}
    (h : t.Leads name names last) (maxPasses : Int) {seen : List (Option String)}
    (hseen : ∀ a, a = name ∨ t.Reaches name a → some a ∉ seen) (n : Nat) (ws : List String) :
    resolveFrom t maxPasses seen n (name :: ws) =
      if names.length < n then .ok (last :: (names.reverse.flatMap t.trailing ++ ws))
      else .error (.tooDeep maxPasses) := by
  induction h generalizing seen n ws with
  | @stop name hstop =>
      cases n with
      | zero => rfl
      | succ n =>
          have hnew : ¬ seen.contains (some name) = true := by simpa using hseen name (.inl rfl)
          rw [resolveFrom, List.head?_cons, if_neg hnew]
          simp [expand_of_next?_eq_none hstop ws]
  | @step name next last names hstep rest ih =>
      cases n with
      | zero => rfl
      | succ n =>
          have hnew : ¬ seen.contains (some name) = true := by simpa using hseen name (.inl rfl)
          have hne : next ≠ name := by
            rintro rfl
            exact ht.isAcyclic _ (.step hstep)
          -- a name that was met cannot be reached any more, or there would be a loop
          have hseen' : ∀ a, a = next ∨ t.Reaches next a → some a ∉ some name :: seen := by
            intro a ha
            have hreach : t.Reaches name a := by
              rcases ha with rfl | ha
              · exact .step hstep
              · exact .head hstep ha
            rw [List.mem_cons, Option.some.injEq, not_or]
            refine ⟨?_, hseen a (.inr hreach)⟩
            rintro rfl
            exact ht.isAcyclic _ hreach
          rw [resolveFrom, List.head?_cons, if_neg hnew, ht.expand_of_next? hstep]
          simp only [List.cons.injEq, hne, false_and, if_false]
          rw [ih hseen' n (t.trailing name ++ ws)]
          simp [List.append_assoc]

/-- **What a name resolves to** is the name that it leads to, with what was collected on the way, if
there is a pass for each alias on the way and one more. -/
theorem Leads.resolve_eq {t : Table} (ht : t.IsDefined) {name last : String} {names : List String}
    (h : t.Leads name names last) (maxPasses : Int) :
    t.resolve maxPasses [name] =
      if names.length < maxPasses then .ok (last :: names.reverse.flatMap t.trailing)
      else .error (.tooDeep maxPasses) := by
  have hpasses : names.length < maxPasses.toNat ↔ (names.length : Int) < maxPasses := by omega
  rw [resolve, h.resolveFrom_eq ht maxPasses (by simp) _ []]
  simp only [hpasses, List.append_nil]

/-- What is no alias resolves to itself. -/
theorem IsDefined.resolve_self {t : Table} (ht : t.IsDefined) {name : String} (h : t.next? name = none)
    {maxPasses : Int} (hpasses : 1 ≤ maxPasses) : t.resolve maxPasses [name] = .ok [name] := by
  rw [(Leads.stop h).resolve_eq ht, if_pos (by simpa using Int.lt_of_lt_of_le Int.zero_lt_one hpasses)]
  rfl

end Table

end Alias

namespace Session

/-- **What becomes of a segment** whose head leads to a name: the name and what was collected on the way
are dispatched with the rest of the segment, or there are too few passes. -/
theorem run_execute_of_leads {cs : Commands} {text head tail last : String} {names : List String}
    (hhead : Text.headAndRest text = some (head, tail)) (c : Context) {s : Store}
    (ht : s.aliases.IsDefined) (h : s.aliases.Leads head names last) :
    (execute cs text).run c s =
      if names.length < s.maxPasses then
        (dispatch cs tail (last :: names.reverse.flatMap s.aliases.trailing)).run c s
      else ⟨.ok false, s, [.err s!"Error: {(Alias.ResolveError.tooDeep s.maxPasses).message}"]⟩ := by
  have hresolve := h.resolve_eq ht s.maxPasses
  split
  · next hpasses => exact run_execute_of_resolve hhead c (by rw [hresolve, if_pos hpasses])
  · next hpasses => exact run_execute_of_resolve_error hhead c (by rw [hresolve, if_neg hpasses])

end Session

namespace Alias

/-- **What a name resolves to in a table of definitions.** The name leads through aliases to a name that
is none. If there are more passes than aliases on the way, it resolves to that name with the words behind
the first in the texts on the way, those of the alias that was met last in front; with fewer passes it is
too deep. It is never found in a loop, and never resolves to nothing. So a segment that begins with the
name is either dispatched with one word at least or turned down for its depth. -/
theorem resolve_eq_of_isDefined {t : Table} (ht : t.IsDefined) (head : String) :
    ∃ names last, t.Leads head names last ∧
      (∀ maxPasses : Int, t.resolve maxPasses [head] =
        if names.length < maxPasses then .ok (last :: names.reverse.flatMap t.trailing)
        else .error (.tooDeep maxPasses)) ∧
      (∀ maxPasses : Int, t.resolve maxPasses [head] ≠ .error .loop ∧
        t.resolve maxPasses [head] ≠ .ok []) ∧
      ∀ (cs : Commands) (text tail : String) (c : Context) (s : Store), s.aliases = t →
        Text.headAndRest text = some (head, tail) →
        (Session.execute cs text).run c s =
          if names.length < s.maxPasses then
            (Session.dispatch cs tail (last :: names.reverse.flatMap t.trailing)).run c s
          else
            ⟨.ok false, s, [.err s!"Error: Expansion depth exceeded (max_passes={s.maxPasses})"]⟩ := by
  obtain ⟨names, last, hleads⟩ := ht.isAcyclic.exists_leads head
  refine ⟨names, last, hleads, hleads.resolve_eq ht, ?_, ?_⟩
  · intro maxPasses
    rw [hleads.resolve_eq ht]
    split <;> simp
  · rintro cs text tail c s rfl hhead
    exact Session.run_execute_of_leads hhead c ht hleads

/-- Three aliases on the way to a command: three passes are too few, and four put the words of the last
alias first. -/
theorem resolve_three_aliases :
    ∃ t, Table.IsDefined t ∧ t.entries = [("a", "b -x"), ("b", "c -y -z"), ("c", "ls -l")] ∧
      t.resolve 3 ["a"] = .error (.tooDeep 3) ∧
      t.resolve 4 ["a"] = .ok ["ls", "-l", "-y", "-z", "-x"] := by
  have ht := Table.isDefined_afterAttempts [("a", "b -x"), ("b", "c -y -z"), ("c", "ls -l")]
  have hentries : Table.afterAttempts [("a", "b -x"), ("b", "c -y -z"), ("c", "ls -l")] =
      .ofList [("a", "b -x"), ("b", "c -y -z"), ("c", "ls -l")] := by decide +kernel
  rw [hentries] at ht
  have hchain : (Table.ofList [("a", "b -x"), ("b", "c -y -z"), ("c", "ls -l")]).Leads "a"
      ["a", "b", "c"] "ls" :=
    .step (by decide +kernel) <| .step (by decide +kernel) <| .step (by decide +kernel) <|
    .stop (by decide +kernel)
  have htrailing : ["c", "b", "a"].flatMap
      (Table.ofList [("a", "b -x"), ("b", "c -y -z"), ("c", "ls -l")]).trailing =
      ["-l", "-y", "-z", "-x"] := by decide +kernel
  refine ⟨_, ht, by decide +kernel, ?_⟩
  generalize Table.ofList [("a", "b -x"), ("b", "c -y -z"), ("c", "ls -l")] = t at *
  obtain ⟨names, last, hleads, hresolve, -⟩ := resolve_eq_of_isDefined ht "a"
  obtain ⟨rfl, rfl⟩ := hchain.unique hleads
  refine ⟨hresolve 3, (hresolve 4).trans ?_⟩
  exact congrArg (fun ws => Except.ok ("ls" :: ws)) htrailing

end Alias

end LineShell
