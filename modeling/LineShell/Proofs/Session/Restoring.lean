import LineShell.Proofs.Alias.Shown
import LineShell.Proofs.Session.Recording
import LineShell.Proofs.Session.Transparency

/-!
# Aliases that are listed and defined once more

Only the command `alias` changes the aliases of a session, and it attempts one definition at a time, with
a name and a text that are made of words. It can be run only as long as it is no alias itself. So in every
session that the shell can be in, the table of aliases is one that can be defined once more
(`Session.IsReachable.isRestorable`).

To do so, the aliases are listed and each line of the list is put behind the command in a segment. Every
such segment defines the next alias (`Session.run_execute_alias`), and all of them give the table
(`Session.run_mapM_execute_alias`). The induction is over the aliases that are still to be defined: those
that are defined are the first ones of the table at all times, so what is true of the first aliases of a
table that came about in a session is true of what has been restored so far.

**Main statement** (`Session.restore_listing`): what is listed in one session and executed in a new one
gives the new one the aliases of the first.
-/

namespace LineShell

namespace Act

variable {α β γ : Type} {P Q : Store → Prop} {part : Store → γ}

/-- Whether an act that finds a state of one kind leaves one of another, even if a fault ends it. -/
def Ensures (P Q : Store → Prop) (x : Act α) : Prop := ∀ c s, P s → Q (x.run c s).store

/-- One act after another leaves what the first one leaves and the second one maintains. -/
theorem Ensures.bind {x : Act α} {f : α → Act β} (hx : x.Ensures P Q) (hf : ∀ a, (f a).Ensures Q Q) :
    (x >>= f).Ensures P Q := by
  intro c s hs
  have hstore := hx c s hs
  rw [run_bind]
  rcases hrun : x.run c s with ⟨r, s', es⟩
  rw [hrun] at hstore
  cases r with
  | error e => exact hstore
  | ok a => exact hf a c s' hstore

/-- An act leaves the same when its fault is made a value. -/
theorem Ensures.attempt {x : Act α} (hx : x.Ensures P Q) : x.attempt.Ensures P Q := fun c s => hx c s

/-- What is true of a part of the state stays true where an act keeps the part. -/
theorem Keeps.ensures {x : Act α} (hx : x.Keeps part) (P : γ → Prop) :
    x.Ensures (fun s => P (part s)) fun s => P (part s) := by
  intro c s hs
  rwa [hx c s]

end Act

namespace Session

open Act

/-! ### What the shell does to the aliases -/

/-- **The command `alias` attempts one definition at most**, and a faithful one. So it leaves a table that
can be defined once more, if it has not lost its name to an alias. -/
theorem ensures_runAlias {args : List String} (hargs : ∀ w ∈ args, Text.IsWord w) :
    (Command.runAlias (.ofArgs args)).Ensures
      (fun s => s.aliases.IsRestorable ∧ "alias" ∉ s.aliases.names) fun s => s.aliases.IsRestorable := by
  rintro c s ⟨hs, hshadow⟩
  cases hrequest : Command.AliasRequest.ofArgs args with
  | all => exact hs
  | one name => exact hs
  | define name text =>
      rw [Command.runAlias]
      by_cases hname : name = ""
      · subst hname
        rwa [Alias.store_run_defineAlias_empty]
      · rw [Alias.store_run_defineAlias hname]
        -- only the table of a definition that is accepted matters, so the text is not empty
        have hnew : Alias.clean text ≠ "" → Alias.IsFaithful name (Alias.clean text) :=
          Alias.isFaithful_of_ofArgs hargs hrequest hname
        dsimp only
        exact hs.attempt hshadow hnew

/-- What a segment is dispatched to leaves a table that can be defined once more, if no alias is left to
be resolved. -/
theorem ensures_dispatch {ws : List String} (hws : ∀ w ∈ ws, Text.IsWord w) (name tail : String) :
    (dispatch builtins tail (name :: ws)).Ensures
      (fun s => s.aliases.IsRestorable ∧ s.aliases.next? name = none)
      fun s => s.aliases.IsRestorable := by
  rintro c s ⟨hs, hnext⟩
  rw [dispatch]
  cases hlookup : builtins.lookup name with
  | none => exact (keeps_runExternal Store.ignoresDisk_aliases _).ensures _ c s hs
  | some command =>
      have hmem : (name, command) ∈ builtins := Commands.mem_of_lookup hlookup
      by_cases hname : name = "alias"
      · -- the command can be reached under its own name only, so there is no alias of that name
        obtain rfl : command = Command.aliases := eq_aliases_of_mem_builtins hmem hname
        have hargs : ∀ w ∈ ws ++ Text.words tail, Text.IsWord w := by
          intro w hw
          rcases List.mem_append.mp hw with hw | hw
          · exact hws w hw
          · exact Text.isWord_of_mem_words hw
        have hshadow : "alias" ∉ s.aliases.names :=
          Alias.Table.next?_eq_none_iff.mp (hname ▸ hnext)
        exact (ensures_runAlias hargs).attempt.bind
          (fun r => (keeps_reportCommand name r).ensures Alias.Table.IsRestorable) c s ⟨hs, hshadow⟩
      · have hkeeps := keeps_of_mem_builtins_of_ne Store.ignoresDisk_aliases _ hmem hname
        exact (keeps_runCommand _ name hkeeps _).ensures _ c s hs

/-- **A segment leaves a table that can be defined once more.** -/
theorem ensures_execute (text : String) :
    (execute builtins text).Ensures (fun s => s.aliases.IsRestorable)
      fun s => s.aliases.IsRestorable := by
  intro c s hs
  cases hhead : Text.headAndRest text with
  | none =>
      rw [execute, hhead]
      exact hs
  | some p =>
      obtain ⟨head, tail⟩ := p
      obtain ⟨names, last, hleads⟩ := hs.isDefined.isAcyclic.exists_leads head
      rw [run_execute_of_leads hhead c hs.isDefined hleads]
      split
      · have hwords : ∀ w ∈ names.reverse.flatMap s.aliases.trailing, Text.IsWord w :=
          fun _ hw => Alias.Table.isWord_of_mem_trailing hw
        exact ensures_dispatch hwords last tail c s ⟨hs, hleads.next?_last⟩
      · exact hs

/-- **Segments leave a table that can be defined once more.** -/
theorem ensures_executeAll (succeeded : Bool) (segments : List Segment) :
    (executeAll builtins succeeded segments).Ensures (fun s => s.aliases.IsRestorable)
      fun s => s.aliases.IsRestorable := by
  induction segments generalizing succeeded with
  | nil => exact fun c s hs => hs
  | cons segment rest ih =>
      rw [executeAll]
      split
      · exact (ensures_execute segment.text).bind fun b => ih b
      · exact fun c s hs => hs

/-- **The aliases of every session can be defined once more.** -/
theorem IsReachable.isRestorable {s : Session} (h : s.IsReachable) : s.store.aliases.IsRestorable := by
  induction h with
  | start started =>
      obtain ⟨settings, -, rfl⟩ := exists_eq_fresh_of_start started
      exact Alias.Table.isRestorable_empty
  | @line s before host raw ih =>
      cases hblank : Text.isBlankText raw with
      | true => rwa [store_after, run_of_isBlankText s host hblank]
      | false =>
          cases hline : s.store.history.expand raw with
          | error e => rwa [store_after, run_of_expand_error host hblank hline]
          | ok line =>
              rw [store_after, run_of_expand host hblank hline, Outcome.store_behind, segmentsOf,
                before.commands_eq]
              exact ensures_executeAll true _ _ _ ih
  | @segment s before host text ih =>
      rw [before.commands_eq]
      exact ensures_execute text _ _ ih
  | files _ _ ih => exact ih

/-! ### Defining aliases once more -/

/-- What is written for an alias that was defined, with the note before it. -/
def defined (e : String × String) : List Event :=
  [.note (.aliasDefined e.1 e.2), .out s!"Alias '{e.1}' created"]

/-- The command is the first word of a segment in which an alias is shown behind it. -/
theorem headAndRest_alias {name text : String} (h : Alias.IsFaithful name text) :
    Text.headAndRest ("alias " ++ Command.showAlias (name, text)) =
      some ("alias", Command.showAlias (name, text)) := by
  have hflush : Chars.IsFlush (Text.unwords [Command.showAlias (name, text)]).toList := by
    rw [Text.unwords_singleton, Alias.showAlias_eq, String.append_assoc, String.toList_append]
    exact (Chars.isFlush_of_not_isBlank h.isWord.not_isBlank).append h.isWord.ne_nil _
  have hcut := Text.headAndRest_unwords_cons (w := "alias") (by decide +kernel) hflush
  rw [Text.unwords_cons_of_ne_nil _ (List.cons_ne_nil _ _), Text.unwords_singleton] at hcut
  exact hcut

/-- What is said of a definition is written. -/
theorem texts_created (name : String) :
    (Reply.text s!"Alias '{name}' created").texts = [s!"Alias '{name}' created"] := by
  have hne : ¬ (s!"Alias '{name}' created").isEmpty = true := by
    rw [String.isEmpty_iff]
    intro h
    have hfirst : "Alias '" = "" := (String.append_eq_empty_iff.mp (String.append_eq_empty_iff.mp h).1).1
    exact absurd hfirst (by decide)
  rw [Reply.texts, if_neg hne]

/-- **One line of the list** defines the next alias of the table, if those before it are defined. -/
theorem run_execute_alias {t : Alias.Table} (ht : t.IsRestorable) (c : Context) {s : Store}
    (hs : s.aliases.IsDefined) (hpasses : 1 ≤ s.maxPasses) {e : String × String}
    {todo : List (String × String)} (hsplit : t.entries = s.aliases.entries ++ e :: todo) :
    ∃ u : Alias.Table, u.IsDefined ∧ u.entries = s.aliases.entries ++ [e] ∧
      (execute builtins ("alias " ++ Command.showAlias e)).run c s =
        ⟨.ok true, { s with aliases := u }, defined e⟩ := by
  obtain ⟨name, text⟩ := e
  have hfaithful : Alias.IsFaithful name text := ht.isFaithful (name, text) (by simp [hsplit])
  obtain ⟨u, haccepted, hentries, hclean⟩ := ht.define_quote hsplit
  refine ⟨u, .define hs haccepted, hentries, ?_⟩
  have hself : s.aliases.resolve s.maxPasses ["alias"] = .ok ["alias"] :=
    hs.resolve_self (Alias.Table.next?_eq_none_iff.mpr (ht.not_mem_names hsplit)) hpasses
  have hname : name ≠ "" := by
    rintro rfl
    exact hfaithful.isWord.ne_nil rfl
  have hcommand : (Command.aliases.run builtins.catalogue
      (Text.words (Command.showAlias (name, text)))).run c s =
        ⟨.ok (.text s!"Alias '{name}' created"), { s with aliases := u },
          [.note (.aliasDefined name text)]⟩ := by
    show (Command.runAlias (.ofArgs _)).run c s = _
    rw [hfaithful.ofArgs_words_showAlias, Command.runAlias,
      Alias.run_defineAlias_of_define hname c haccepted, hclean]
  have hlookup : builtins.lookup "alias" = some Command.aliases := rfl
  rw [run_execute_of_lookup hlookup (headAndRest_alias hfaithful) c hself, List.nil_append,
    run_runCommand_of_run _ _ hcommand, texts_created]
  rfl

/-- **All lines of the list** define the table. -/
theorem run_mapM_execute_alias {t : Alias.Table} (ht : t.IsRestorable) (c : Context)
    {todo : List (String × String)} {s : Store} (hs : s.aliases.IsDefined) (hpasses : 1 ≤ s.maxPasses)
    (hsplit : t.entries = s.aliases.entries ++ todo) :
    ((todo.map Command.showAlias).mapM fun line => execute builtins ("alias " ++ line)).run c s =
      ⟨.ok (todo.map fun _ => true), { s with aliases := t }, todo.flatMap defined⟩ := by
  induction todo generalizing s with
  | nil =>
      have htable : s.aliases = t := by
        ext1
        rw [hsplit, List.append_nil]
      rw [← htable]
      rfl
  | cons e todo ih =>
      obtain ⟨u, hu, hentries, hrun⟩ := run_execute_alias ht c hs hpasses hsplit
      have hrest := @ih { s with aliases := u } hu hpasses (by simp [hsplit, hentries])
      rw [List.map_cons, List.mapM_cons, Act.run_bind, hrun, Act.andThen_ok, Act.run_bind, hrest,
        Act.andThen_ok, Act.run_pure]
      simp

/-- **Aliases that are listed can be defined once more.** In every session that the shell can be in and
that has an alias, the command `alias` lists the aliases, each as its name and its text. In any session
that has just started, with settings of its own and in any world, each of these lines is accepted as a
definition when it is put behind the command. What is said is that the aliases were created, nothing is
called, and the session is left with the aliases of the first one, in their order, and as it was in all
other respects. -/
theorem restore_listing {s f : Session} (hs : s.IsReachable) (hne : s.store.aliases.entries ≠ [])
    {nesting : Nat} {disk : Disk} {path : Option String} (hf : (start nesting disk path).result = .ok f)
    (host host' : Host) :
    ∃ (command : Command) (lines : List String), s.commands.lookup "alias" = some command ∧
      lines = s.store.aliases.entries.map (fun e => s!"{e.1}='{e.2}'") ∧
      s.perform host (command.run s.commands.catalogue []) = ⟨.ok (.lines lines), s.store, []⟩ ∧
      f.perform host' (lines.mapM fun line => execute f.commands ("alias " ++ line)) =
        ⟨.ok (lines.map fun _ => true), { f.store with aliases := s.store.aliases },
          s.store.aliases.entries.flatMap defined⟩ := by
  obtain ⟨settings, -, rfl⟩ := exists_eq_fresh_of_start hf
  refine ⟨Command.aliases, _, by rw [hs.commands_eq]; rfl, rfl, ?_, ?_⟩
  · have hlisted : Command.listReply s.store.aliases =
        .lines (s.store.aliases.entries.map Command.showAlias) := by
      rw [Command.listReply, if_neg (by simpa using hne)]
    exact congrArg (fun r => Outcome.mk (.ok r) s.store []) hlisted
  · rw [List.map_map]
    exact run_mapM_execute_alias hs.isRestorable _ .empty (one_le_maxPasses_of_start hf) rfl

/-- Three lines define aliases whose texts hold a quotation mark and an equals sign, and the last of them
takes the command's own name. Their list gives them back. -/
theorem restore_three_aliases :
    ∃ s : Session, s.IsReachable ∧
      s.store.aliases.entries = [("x", "'a =b"), ("y", "x --color=\"no\" z"), ("alias", "echo hi")] ∧
      ((fresh builtins .default .empty).perform emptyHost
        (["x=''a =b'", "y='x --color=\"no\" z'", "alias='echo hi'"].mapM fun line =>
          execute builtins ("alias " ++ line))).store.aliases = s.store.aliases := by
  have hstart : (Session.start 0 .empty none).result = .ok (fresh builtins .default .empty) := rfl
  obtain ⟨s, hs, hentries⟩ : ∃ s : Session, s.IsReachable ∧ s.store.aliases.entries =
      [("x", "'a =b"), ("y", "x --color=\"no\" z"), ("alias", "echo hi")] :=
    ⟨(((fresh builtins .default .empty).after emptyHost "alias x=''a  =b").after emptyHost
        "alias y = x --color=\"no\"\tz").after emptyHost "alias alias=\"echo hi\"",
      .line (.line (.line (.start hstart) _ _) _ _) _ _, by decide +kernel⟩
  refine ⟨s, hs, hentries, ?_⟩
  obtain ⟨-, lines, -, rfl, -, hrun⟩ :=
    restore_listing hs (by simp [hentries]) hstart emptyHost emptyHost
  rw [hentries] at hrun
  exact congrArg (fun o => o.store.aliases) hrun

end Session

end LineShell
