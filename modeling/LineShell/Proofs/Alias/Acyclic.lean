import LineShell.Alias.Define
import LineShell.Command.Alias
import Mathlib.Data.List.Chain

/-!
# Tables without loops

A definition looks for a loop only along the walk that begins at the name being defined. This is
enough: a loop that was not there before takes the new step, and so it comes back to the new name
(`Table.reaches_set_self_of_reaches`). A table that is reached by definitions alone has therefore
no loop anywhere, whatever was turned down on the way.

The search ends without having found the name either at a name that is no alias, or at one that it
has seen before. In both cases what it has seen is closed under the steps of the table
(`Table.IsClosed`), and no walk leads out of it.

**Main statements**: `Table.hasCycle_iff_reaches` (the search finds the loops through the name, and
only those) and `define_eq_ok_iff_isAcyclic` (what a definition does, after any history of
definitions).
-/

namespace LineShell

namespace Alias

/-! ### Entries -/

/-- A name that is known gets its text in its place, and nothing else changes. -/
theorem setEntry_of_mem {name : String} {es : List (String × String)}
    (hnodup : (es.map Prod.fst).Nodup) (h : name ∈ es.map Prod.fst) (text : String) :
    setEntry name text es = es.map fun e => if e.1 = name then (name, text) else e := by
  induction es with
  | nil => cases h
  | cons e es ih =>
      obtain ⟨n, t⟩ := e
      rw [List.map_cons, List.nodup_cons] at hnodup
      by_cases hn : n = name
      · subst hn
        have hrest : es.map (fun e => if e.1 = n then (n, text) else e) = es := by
          conv_rhs => rw [← List.map_id es]
          refine List.map_congr_left fun e he => ?_
          have hne : e.1 ≠ n := fun hen => hnodup.1 (List.mem_map.mpr ⟨e, he, hen⟩)
          rw [if_neg hne, id]
        simp [setEntry, hrest]
      · have hmem : name ∈ es.map Prod.fst := by
          rcases List.mem_cons.mp h with h | h
          · exact absurd h.symm hn
          · exact h
        simp [setEntry, hn, ih hnodup.2 hmem]

/-- A name that is not known comes last with its text. -/
theorem setEntry_of_not_mem {name : String} {es : List (String × String)}
    (h : name ∉ es.map Prod.fst) (text : String) :
    setEntry name text es = es ++ [(name, text)] := by
  induction es with
  | nil => rfl
  | cons e es ih =>
      obtain ⟨n, t⟩ := e
      rw [List.map_cons, List.mem_cons, not_or] at h
      rw [setEntry, if_neg (Ne.symm h.1), ih h.2]
      rfl

/-- The pairs whose name is another hold what they held, but for that name. -/
theorem lookup_without (name other : String) (es : List (String × String)) :
    (without name es).lookup other = if other = name then none else es.lookup other := by
  induction es with
  | nil => simp [without]
  | cons e es ih =>
      obtain ⟨n, t⟩ := e
      by_cases hn : n = name
      · subst hn
        have hskip : without n ((n, t) :: es) = without n es := by simp [without]
        rw [hskip, ih]
        by_cases ho : other = n
        · simp [ho]
        · simp [List.lookup_cons, beq_eq_false_iff_ne.mpr ho]
      · have hkeep : without name ((n, t) :: es) = (n, t) :: without name es := by
          simp [without, hn]
        rw [hkeep, List.lookup_cons, List.lookup_cons, ih]
        by_cases ho : other = n
        · subst ho
          simp [hn]
        · simp [beq_eq_false_iff_ne.mpr ho]

namespace Table

/-- The entries of a table with a text given to a name: in the name's place, or else at the end. -/
theorem entries_set (t : Table) (name text : String) :
    (t.set name text).entries =
      if name ∈ t.names then t.entries.map fun e => if e.1 = name then (name, text) else e
      else t.entries ++ [(name, text)] := by
  split
  · next h => exact setEntry_of_mem t.nodup h text
  · next h => exact setEntry_of_not_mem h text

/-! ### Steps -/

/-- The name that was given a text leads to the first word of the text. -/
@[simp] theorem next?_set_self (t : Table) (name text : String) :
    (t.set name text).next? name = some (Text.firstWord text) := by
  simp [next?]

/-- The other names lead where they led. -/
theorem next?_set_of_ne (t : Table) {name other : String} (text : String) (h : other ≠ name) :
    (t.set name text).next? other = t.next? other := by
  simp only [next?, t.lookup_set_of_ne text h]

/-- Whether no step of a table leads out of a set of names. -/
def IsClosed (t : Table) (names : List String) : Prop :=
  ∀ a ∈ names, ∀ b, t.next? a = some b → b ∈ names

/-- No walk leads out of a closed set. -/
theorem IsClosed.mem_of_reaches {t : Table} {names : List String} (h : t.IsClosed names)
    {a b : String} (hab : t.Reaches a b) (ha : a ∈ names) : b ∈ names := by
  induction hab with
  | step hstep => exact h _ ha _ hstep
  | head hstep _ ih => exact ih (h _ ha _ hstep)

/-! ### The search -/

/-- What is found is there: the search follows the steps of the table. -/
theorem reaches_of_arrives {t : Table} {name current : String} {left : List (String × String)}
    (hleft : ∀ a text, left.lookup a = some text → t.lookup a = some text)
    (h : arrives name left current = true) : current = name ∨ t.Reaches current name := by
  fun_induction arrives name left current with
  | case1 left => exact .inl rfl
  | case2 left current _ _ => cases h
  | case3 left current _ text hlookup ih =>
      have hstep : t.next? current = some (Text.firstWord text) := by
        simp [next?, hleft current text hlookup]
      have hwithout : ∀ a u, (without current left).lookup a = some u → t.lookup a = some u := by
        intro a u ha
        rw [lookup_without] at ha
        split at ha
        · cases ha
        · exact hleft a u ha
      rcases ih hwithout h with hname | hreach
      · exact .inr (.step (hname ▸ hstep))
      · exact .inr (.head hstep hreach)

/-- What is not found is not there: the names that the search has seen, and those it has still to
see, are closed under the steps of the table. -/
theorem exists_isClosed_of_not_arrives {t : Table} {name current : String}
    {left : List (String × String)} {seen : List String} (hname : name ∉ seen)
    (hleft : ∀ a, a ≠ name → left.lookup a = if a ∈ seen then none else t.lookup a)
    (hseen : ∀ a ∈ seen, ∀ b, t.next? a = some b → b ∈ seen ∨ b = current)
    (h : arrives name left current = false) :
    ∃ names, t.IsClosed names ∧ current ∈ names ∧ seen ⊆ names ∧ name ∉ names := by
  fun_induction arrives name left current generalizing seen with
  | case1 left => cases h
  | case2 left current hne hnone =>
      by_cases hmem : current ∈ seen
      · -- the walk has run into a loop that leaves out the name
        refine ⟨seen, ?_, hmem, List.Subset.refl _, hname⟩
        intro a ha b hab
        rcases hseen a ha b hab with hb | rfl
        · exact hb
        · exact hmem
      · -- the walk has come to a name that is no alias
        have hlast : t.lookup current = none := by
          rw [hleft current hne, if_neg hmem] at hnone
          exact hnone
        refine ⟨current :: seen, ?_, List.mem_cons_self, List.subset_cons_self _ _, ?_⟩
        · intro a ha b hab
          rcases List.mem_cons.mp ha with rfl | ha
          · simp [next?, hlast] at hab
          · rcases hseen a ha b hab with hb | rfl
            · exact List.mem_cons_of_mem _ hb
            · exact List.mem_cons_self
        · rw [List.mem_cons, not_or]
          exact ⟨Ne.symm hne, hname⟩
  | case3 left current hne text hlookup ih =>
      have htext : current ∉ seen ∧ t.lookup current = some text := by
        rw [hleft current hne] at hlookup
        split at hlookup
        · cases hlookup
        · next hmem => exact ⟨hmem, hlookup⟩
      have hname' : name ∉ current :: seen := by
        rw [List.mem_cons, not_or]
        exact ⟨Ne.symm hne, hname⟩
      obtain ⟨names, hclosed, -, hsub, hnot⟩ := ih hname'
        (by
          intro a ha
          rw [lookup_without, hleft a ha]
          by_cases hac : a = current <;> simp [hac])
        (by
          intro a ha b hab
          rcases List.mem_cons.mp ha with rfl | ha
          · rw [next?, htext.2] at hab
            cases hab
            exact .inr rfl
          · rcases hseen a ha b hab with hb | rfl
            · exact .inl (List.mem_cons_of_mem _ hb)
            · exact .inl List.mem_cons_self)
        h
      exact ⟨names, hclosed, hsub List.mem_cons_self, fun a ha => hsub (List.mem_cons_of_mem _ ha),
        hnot⟩

/-- **The search finds the loops through the name, and only those.** -/
theorem hasCycle_iff_reaches {t : Table} {name : String} :
    t.hasCycle name = true ↔ t.Reaches name name := by
  rw [hasCycle]
  cases htext : t.lookup name with
  | none =>
      have hnext : t.next? name = none := by simp [next?, htext]
      constructor
      · intro h
        cases h
      · intro h
        cases h with
        | step hstep => rw [hnext] at hstep; cases hstep
        | head hstep _ => rw [hnext] at hstep; cases hstep
  | some text =>
      have hnext : t.next? name = some (Text.firstWord text) := by simp [next?, htext]
      have hleft : ∀ a, a ≠ name → (without name t.entries).lookup a = t.lookup a := by
        intro a ha
        rw [lookup_without, if_neg ha]
        rfl
      constructor
      · intro h
        have hsub : ∀ a u, (without name t.entries).lookup a = some u → t.lookup a = some u := by
          intro a u ha
          rw [lookup_without] at ha
          split at ha
          · cases ha
          · exact ha
        rcases reaches_of_arrives hsub h with hname | hreach
        · exact .step (hname ▸ hnext)
        · exact .head hnext hreach
      · intro h
        by_contra hnot
        rw [Bool.not_eq_true] at hnot
        have hempty : name ∉ ([] : List String) := List.not_mem_nil
        obtain ⟨names, hclosed, hfirst, -, hname⟩ :=
          exists_isClosed_of_not_arrives (t := t) hempty (by simpa using hleft) (by simp) hnot
        cases h with
        | step hstep =>
            rw [hnext] at hstep
            cases hstep
            exact hname hfirst
        | head hstep rest =>
            rw [hnext] at hstep
            cases hstep
            exact hname (hclosed.mem_of_reaches rest hfirst)

/-! ### A step more -/

/-- A walk that is new takes the new step: it goes on from the name that was given a text. -/
theorem reaches_or_of_reaches_set {t : Table} {name text a b : String}
    (h : (t.set name text).Reaches a b) :
    t.Reaches a b ∨
      (a = name ∨ (t.set name text).Reaches a name) ∧ (t.set name text).Reaches name b := by
  induction h with
  | @step a b hstep =>
      by_cases ha : a = name
      · subst ha
        exact .inr ⟨.inl rfl, .step hstep⟩
      · rw [next?_set_of_ne t text ha] at hstep
        exact .inl (.step hstep)
  | @head a b c hstep rest ih =>
      by_cases ha : a = name
      · subst ha
        exact .inr ⟨.inl rfl, .head hstep rest⟩
      · have hold := hstep
        rw [next?_set_of_ne t text ha] at hold
        rcases ih with hrest | ⟨rfl | hto, hfrom⟩
        · exact .inl (.head hold hrest)
        · exact .inr ⟨.inr (.step hstep), hfrom⟩
        · exact .inr ⟨.inr (.head hstep hto), hfrom⟩

/-- **A loop that is new comes back to the name that was given a text.** -/
theorem reaches_set_self_of_reaches {t : Table} (ht : t.IsAcyclic) {name text a : String}
    (h : (t.set name text).Reaches a a) : (t.set name text).Reaches name name := by
  rcases reaches_or_of_reaches_set h with hold | ⟨rfl | hto, hfrom⟩
  · exact absurd hold (ht a)
  · exact hfrom
  · exact hfrom.trans hto

/-- Giving a text to a name makes no loop if it makes none through the name. -/
theorem isAcyclic_set_iff {t : Table} (ht : t.IsAcyclic) {name text : String} :
    (t.set name text).IsAcyclic ↔ ¬ (t.set name text).Reaches name name :=
  ⟨fun h => h name, fun h _ ha => h (reaches_set_self_of_reaches ht ha)⟩

/-! ### Definitions -/

/-- A definition is accepted when a text is left that does not lead back to the name. A text that
begins with the name leads back in one step. -/
theorem define_eq_ok_iff {t u : Table} {name text : String} :
    t.define name text = .ok u ↔
      clean text ≠ "" ∧ ¬ (t.set name (clean text)).Reaches name name ∧
        u = t.set name (clean text) := by
  have hempty : (clean text).isEmpty = true ↔ clean text = "" := String.isEmpty_iff
  rw [define]
  by_cases h₁ : (clean text).isEmpty = true
  · rw [if_pos h₁]
    simp [hempty.mp h₁]
  rw [if_neg h₁]
  rw [hempty] at h₁
  by_cases h₂ : Text.firstWord (clean text) = name
  · have hloop : (t.set name (clean text)).Reaches name name :=
      .step ((next?_set_self t name _).trans (congrArg some h₂))
    rw [if_pos h₂]
    simp [hloop]
  rw [if_neg h₂]
  by_cases h₃ : (t.set name (clean text)).hasCycle name = true
  · rw [if_pos h₃]
    simp [hasCycle_iff_reaches.mp h₃]
  · rw [if_neg h₃, Except.ok.injEq]
    rw [hasCycle_iff_reaches] at h₃
    constructor
    · rintro rfl
      exact ⟨h₁, h₃, rfl⟩
    · rintro ⟨-, -, rfl⟩
      rfl

/-- The table behind an attempt to define an alias: the one before it, if the definition is turned
down. -/
def attempt (t : Table) (name text : String) : Table :=
  match t.define name text with
  | .ok u => u
  | .error _ => t

/-- An attempt makes no loop where there was none. -/
theorem IsAcyclic.attempt {t : Table} (ht : t.IsAcyclic) (name text : String) :
    (t.attempt name text).IsAcyclic := by
  unfold Table.attempt
  cases h : t.define name text with
  | error e => exact ht
  | ok u =>
      obtain ⟨-, hloop, rfl⟩ := define_eq_ok_iff.mp h
      exact (isAcyclic_set_iff ht).mpr hloop

/-- The table behind attempts to define aliases, one after another, when there was none before. -/
def afterAttempts (ds : List (String × String)) : Table :=
  ds.foldl (fun t d => t.attempt d.1 d.2) .empty

/-- One attempt more. -/
theorem afterAttempts_append (ds : List (String × String)) (name text : String) :
    afterAttempts (ds ++ [(name, text)]) = (afterAttempts ds).attempt name text := by
  simp only [afterAttempts, List.foldl_append, List.foldl_cons, List.foldl_nil]

/-- **Whatever is attempted, no loop comes about.** -/
theorem isAcyclic_afterAttempts (ds : List (String × String)) : (afterAttempts ds).IsAcyclic := by
  induction ds using List.reverseRecOn with
  | nil => exact isAcyclic_empty
  | append_singleton ds d ih =>
      rw [afterAttempts_append]
      exact ih.attempt d.1 d.2

/-! ### Walks -/

/-- Whether names are met one behind the other on a walk. -/
def IsWalk (t : Table) (names : List String) : Prop :=
  names.IsChain fun a b => t.next? a = some b

/-- A walk in a table without loops meets no name twice. -/
theorem IsAcyclic.nodup_of_isWalk {t : Table} (ht : t.IsAcyclic) {names : List String}
    (h : t.IsWalk names) : names.Nodup := by
  have hreach : names.IsChain t.Reaches := List.IsChain.imp (fun _ _ hab => .step hab) h
  have : Trans t.Reaches t.Reaches t.Reaches := ⟨Reaches.trans⟩
  refine (List.isChain_iff_pairwise.mp hreach).imp ?_
  rintro a b hab rfl
  exact ht a hab

end Table

/-! ### The command -/

/-- Notes are all that making them does. -/
@[simp] theorem run_noteAll (ns : List Note) (c : Context) (s : Store) :
    (Command.noteAll ns).run c s = ⟨.ok (), s, ns.map .note⟩ := by
  induction ns with
  | nil => rfl
  | cons n ns ih => simp [Command.noteAll, ih]

/-- A definition that is accepted is noted and stored. -/
theorem run_defineAlias_of_define {name text : String} (hname : name ≠ "") (c : Context) {s : Store}
    {t : Table} (h : s.aliases.define name text = .ok t) :
    (Command.defineAlias name text).run c s =
      ⟨.ok (.text s!"Alias '{name}' created"), { s with aliases := t },
        [.note (.aliasDefined name (clean text))]⟩ := by
  simp [Command.defineAlias, Command.defineNotes, Except.map, hname, h]

/-- A definition that is turned down is reported, and nothing is stored. -/
theorem run_defineAlias_of_error {name text : String} (hname : name ≠ "") (c : Context) {s : Store}
    {e : Error} (h : s.aliases.define name text = .error e) :
    (Command.defineAlias name text).run c s =
      ⟨.ok .nothing, s,
        (Command.defineNotes name text (.error e)).map .note ++ [.err e.message]⟩ := by
  simp [Command.defineAlias, Except.map, hname, h]

/-- The command stores the table of a definition that is accepted, and leaves the state as it was
behind one that is turned down. -/
theorem store_run_defineAlias {name : String} (hname : name ≠ "") (text : String) (c : Context)
    (s : Store) :
    ((Command.defineAlias name text).run c s).store =
      { s with aliases := s.aliases.attempt name text } := by
  cases h : s.aliases.define name text with
  | error e => rw [run_defineAlias_of_error hname c h, Table.attempt, h]
  | ok u => rw [run_defineAlias_of_define hname c h, Table.attempt, h]

/-- Without a name nothing is attempted. -/
theorem store_run_defineAlias_empty (text : String) (c : Context) (s : Store) :
    ((Command.defineAlias "" text).run c s).store = s := by
  simp [Command.defineAlias]

/-! ### Any history of attempts -/

/-- **What a definition does, after any attempts.** It is accepted exactly when a text is left and the
table that gives it to the name has no loop anywhere. Only the name's entry changes then, in its
place if the name was known and at the end if not, and the command stores the table; behind a
definition that is turned down it leaves the state as it was. No walk in the table meets a name
twice. -/
theorem define_eq_ok_iff_isAcyclic {ds : List (String × String)} {t : Table}
    (ht : Table.afterAttempts ds = t) (name text : String) :
    ((∃ u, t.define name text = .ok u) ↔
        clean text ≠ "" ∧ (t.set name (clean text)).IsAcyclic) ∧
      (∀ u, t.define name text = .ok u →
        u.entries =
          (if name ∈ t.names then
            t.entries.map fun e => if e.1 = name then (name, clean text) else e
          else t.entries ++ [(name, clean text)]) ∧
        ∀ c s, s.aliases = t → name ≠ "" →
          ((Command.defineAlias name text).run c s).store = { s with aliases := u }) ∧
      (∀ e, t.define name text = .error e → t.attempt name text = t ∧
        ∀ c s, s.aliases = t → ((Command.defineAlias name text).run c s).store = s) ∧
      ∀ names, t.IsWalk names → names.Nodup := by
  have hacyclic : t.IsAcyclic := ht ▸ Table.isAcyclic_afterAttempts ds
  refine ⟨?_, ?_, ?_, fun names => hacyclic.nodup_of_isWalk⟩
  · rw [Table.isAcyclic_set_iff hacyclic]
    constructor
    · rintro ⟨u, hu⟩
      obtain ⟨htext, hloop, -⟩ := Table.define_eq_ok_iff.mp hu
      exact ⟨htext, hloop⟩
    · rintro ⟨htext, hloop⟩
      exact ⟨_, Table.define_eq_ok_iff.mpr ⟨htext, hloop, rfl⟩⟩
  · intro u hu
    refine ⟨by rw [Table.eq_set_of_define hu, Table.entries_set], ?_⟩
    rintro c s rfl hname
    rw [store_run_defineAlias hname, Table.attempt, hu]
  · intro e he
    have hattempt : t.attempt name text = t := by rw [Table.attempt, he]
    refine ⟨hattempt, ?_⟩
    rintro c s rfl
    by_cases hname : name = ""
    · subst hname
      exact store_run_defineAlias_empty text c s
    · rw [store_run_defineAlias hname, hattempt]

/-- Of four attempts the third is turned down, and the last gives a name another text in its place.
The table that is left accepts what was turned down before, and still turns a loop down. -/
theorem define_after_four_attempts :
    Table.afterAttempts [("a", "b"), ("b", "c"), ("c", "a x"), ("a", "\"ls -l\"")] =
        .ofList [("a", "ls -l"), ("b", "c")] ∧
      ((Table.ofList [("a", "ls -l"), ("b", "c")]).set "c" (clean "a x")).IsAcyclic ∧
      ¬ ((Table.ofList [("a", "ls -l"), ("b", "c")]).set "c" (clean "=b")).IsAcyclic := by
  have ht : Table.afterAttempts [("a", "b"), ("b", "c"), ("c", "a x"), ("a", "\"ls -l\"")] =
      .ofList [("a", "ls -l"), ("b", "c")] := by decide +kernel
  refine ⟨ht, ?_, ?_⟩
  · have haccepted : (Table.ofList [("a", "ls -l"), ("b", "c")]).define "c" "a x" =
        .ok (.ofList [("a", "ls -l"), ("b", "c"), ("c", "a x")]) := by decide +kernel
    exact ((define_eq_ok_iff_isAcyclic ht "c" "a x").1.mp ⟨_, haccepted⟩).2
  · intro h
    have hcircular : (Table.ofList [("a", "ls -l"), ("b", "c")]).define "c" "=b" =
        .error (.circular "c") := by decide +kernel
    obtain ⟨u, hu⟩ := (define_eq_ok_iff_isAcyclic ht "c" "=b").1.mpr ⟨by decide +kernel, h⟩
    rw [hcircular] at hu
    cases hu

end Alias

end LineShell
