import LineShell.Proofs.Session.Recording
import LineShell.Proofs.Text.Words

/-!
# What goes wrong in a segment

A fault ends the command that it meets, and the segment with it, but not the line, and what it was about
is reported. Only an interruption from the keyboard goes further, and a child that the system refuses. So
where the world outside is orderly (`Host.IsOrderly`: each child finishes, or there is no shell for it)
and no command is interrupted, a segment comes to a success or a failure, whatever the aliases are and
whatever the commands do.

A segment fails for one of five reasons (`Session.Fails`). None of them changes more than files when the
commands are those of the shell: the one that changes the aliases has no faults at all
(`Command.faultsOnly_aliases`).

**Main statement** (`Session.execute_contains_failures`): all this for any commands, and what it comes to
for those of the shell.
-/

namespace LineShell

/-! ### Children -/

namespace Child

/-- Whether a child finished, or there was no shell to run it. -/
def Reply.IsOrderly : Reply → Prop
  | finished .. => True
  | shellMissing => True
  | interrupted => False
  | refused _ => False

/-- Whether a child finished with another code than zero, or there was no shell to run it. -/
def Reply.IsFailure : Reply → Prop
  | finished code _ _ => code ≠ 0
  | shellMissing => True
  | interrupted => False
  | refused _ => False

/-- Whether an error is about a command that is unknown or failed. -/
def Error.IsFailure : Error → Prop
  | unknown .. => True
  | failed .. => True
  | refused _ => False
  | interrupted => False

/-- A child that failed is an error that says so. -/
theorem ofReply_of_isFailure {r : Reply} (h : r.IsFailure) (commandLine : String) :
    ∃ e, ofReply commandLine r = .error e ∧ e.IsFailure := by
  cases r with
  | finished code out err =>
      have hcode : code ≠ 0 := h
      by_cases hunknown : code = notFoundCode
      · exact ⟨.unknown _ _, by rw [ofReply, if_pos hunknown], trivial⟩
      · exact ⟨.failed _ _, by rw [ofReply, if_neg hunknown, if_neg hcode], trivial⟩
  | shellMissing => exact ⟨.unknown _ _, rfl, trivial⟩
  | interrupted => exact absurd h id
  | refused r => exact absurd h id

/-- Any other child that finished ended well. -/
theorem ofReply_of_not_isFailure {r : Reply} (horderly : r.IsOrderly) (h : ¬ r.IsFailure)
    (commandLine : String) : ∃ child, ofReply commandLine r = .ok child := by
  cases r with
  | finished code out err =>
      obtain rfl : code = 0 := not_not.mp h
      exact ⟨⟨commandLine, 0, out, err⟩, ofReply_eq_ok_iff.mpr ⟨rfl, rfl, rfl⟩⟩
  | shellMissing => exact absurd trivial h
  | interrupted => exact absurd horderly id
  | refused r => exact absurd horderly id

end Child

/-- Whether all children finish in a world, unless there is no shell to run them. -/
def Host.IsOrderly (h : Host) : Prop :=
  ∀ shell disk commandLine, (h.run shell disk commandLine).1.IsOrderly

/-- Whether a fault ends no more than the command that it meets. -/
def Fault.IsOrdinary (e : Fault) : Prop := e.isInterrupt = false

theorem Fault.isOrdinary_path (p : Path) (f : Disk.Fault) : (path p f).IsOrdinary := rfl

theorem Fault.isOrdinary_listing (e : Listing.Error) : (listing e).IsOrdinary := rfl

namespace Act

variable {α β ε : Type} {F : Fault → Prop} {c : Context}

/-- A computation is a fault exactly when it fails. -/
theorem result_ofExcept (toFault : ε → Fault) (r : Except ε α) (c : Context) (s : Store) :
    ((ofExcept toFault r).run c s).result = r.mapError toFault := by
  cases r <;> rfl

/-- What the system answers to a command line is what the child comes to. -/
theorem result_runChild (commandLine : String) (c : Context) (s : Store) :
    ((runChild commandLine).run c s).result =
      (Child.ofReply commandLine (c.host.run c.shell s.disk commandLine).1).mapError .child := by
  have hnote : ∀ child t, ((noteChild child).run c t).result = .ok () := by
    intro child t
    cases child <;> rfl
  rw [runChild, run_bind, run_call, andThen_ok, run_bind]
  generalize { s with disk := _ } = t
  have hresult := hnote (Child.Reply.child? commandLine (c.host.run c.shell s.disk commandLine).1) t
  rcases hrun : (noteChild _).run c t with ⟨r, t', es⟩
  rw [hrun] at hresult
  cases hresult
  exact result_ofExcept _ _ _ _

/-! ### Faults -/

/-- Whether all faults that can end an act in a context are of one kind. -/
def FaultsOnly (F : Fault → Prop) (c : Context) (x : Act α) : Prop :=
  ∀ s e, (x.run c s).result = .error e → F e

/-- An act that comes to a value everywhere has no faults of any kind. -/
theorem faultsOnly_of_result {x : Act α} (h : ∀ s, ∃ a, (x.run c s).result = .ok a) :
    x.FaultsOnly F c := by
  intro s e he
  obtain ⟨a, ha⟩ := h s
  rw [ha] at he
  cases he

theorem faultsOnly_pure (a : α) : FaultsOnly F c (pure a : Act α) :=
  faultsOnly_of_result fun _ => ⟨a, rfl⟩

theorem faultsOnly_writeErr (text : String) : FaultsOnly F c (writeErr text) :=
  faultsOnly_of_result fun _ => ⟨(), rfl⟩

theorem faultsOnly_writeErrAll (ls : List String) : FaultsOnly F c (writeErrAll ls) :=
  faultsOnly_of_result fun s => ⟨(), by rw [run_writeErrAll]⟩

theorem faultsOnly_note (n : Note) : FaultsOnly F c (note n) :=
  faultsOnly_of_result fun _ => ⟨(), rfl⟩

theorem faultsOnly_get : FaultsOnly F c get := faultsOnly_of_result fun s => ⟨s, rfl⟩

theorem faultsOnly_modify (f : Store → Store) : FaultsOnly F c (modify f) :=
  faultsOnly_of_result fun _ => ⟨(), rfl⟩

theorem faultsOnly_clock : FaultsOnly F c clock := faultsOnly_of_result fun _ => ⟨_, rfl⟩

theorem faultsOnly_room : FaultsOnly F c room := faultsOnly_of_result fun _ => ⟨_, rfl⟩

theorem faultsOnly_depth : FaultsOnly F c depth := faultsOnly_of_result fun _ => ⟨_, rfl⟩

theorem faultsOnly_fail {e : Fault} (h : F e) : FaultsOnly F c (fail e : Act α) := by
  rintro s _ ⟨⟩
  exact h

/-- A computation that fails does so with one of the faults that its errors stand for. -/
theorem faultsOnly_ofExcept {toFault : ε → Fault} (h : ∀ e, F (toFault e)) (r : Except ε α) :
    FaultsOnly F c (ofExcept toFault r) := by
  cases r with
  | ok a => exact faultsOnly_pure a
  | error e => exact faultsOnly_fail (h e)

/-- One act after another has the faults of both. -/
theorem FaultsOnly.bind {x : Act α} {f : α → Act β} (hx : x.FaultsOnly F c)
    (hf : ∀ a, (f a).FaultsOnly F c) : (x >>= f).FaultsOnly F c := by
  intro s e he
  rw [run_bind] at he
  have hfirst := hx s
  rcases hrun : x.run c s with ⟨r, s', es⟩
  rw [hrun] at he hfirst
  cases r with
  | error e' =>
      cases he
      exact hfirst _ rfl
  | ok a => exact hf a s' e he

/-- In an orderly world a child that is run is never interrupted. -/
theorem faultsOnly_runChild (hhost : c.host.IsOrderly) (commandLine : String) :
    FaultsOnly Fault.IsOrdinary c (runChild commandLine) := by
  intro s e he
  have horderly := hhost c.shell s.disk commandLine
  rw [result_runChild] at he
  by_cases hfailure : (c.host.run c.shell s.disk commandLine).1.IsFailure
  · obtain ⟨e', he', hkind⟩ := Child.ofReply_of_isFailure hfailure commandLine
    rw [he'] at he
    cases he
    cases e' with
    | interrupted => exact absurd hkind id
    | unknown _ _ | failed _ _ | refused _ => rfl
  · obtain ⟨child, hchild⟩ := Child.ofReply_of_not_isFailure horderly hfailure commandLine
    rw [hchild] at he
    cases he

end Act

open Act

namespace Command

/-! ### The commands of the shell -/

/-- Whether the faults of a command are of one kind, whatever its arguments are. -/
def FaultsOnly (F : Fault → Prop) (c : Context) (command : Command) : Prop :=
  ∀ cat args, (command.run cat args).FaultsOnly F c

variable {F : Fault → Prop} {c : Context}

/-- **The command `alias` has no faults**: what is wrong with a definition is its answer. -/
theorem faultsOnly_aliases : aliases.FaultsOnly F c := by
  have hnotes : ∀ ns, (noteAll ns).FaultsOnly F c := by
    intro ns
    induction ns with
    | nil => exact faultsOnly_pure _
    | cons n ns ih => exact (faultsOnly_note n).bind fun _ => ih
  intro _ args
  show (runAlias (.ofArgs args)).FaultsOnly F c
  cases AliasRequest.ofArgs args with
  | all => exact faultsOnly_get.bind fun _ => faultsOnly_pure _
  | one name => exact faultsOnly_get.bind fun _ => faultsOnly_pure _
  | define name text =>
      rw [runAlias, defineAlias]
      split
      · exact (faultsOnly_writeErr _).bind fun _ => faultsOnly_pure _
      · refine faultsOnly_get.bind fun s => (hnotes _).bind fun _ => ?_
        split
        · exact (faultsOnly_modify _).bind fun _ => faultsOnly_pure _
        · exact (faultsOnly_writeErr _).bind fun _ => faultsOnly_pure _

/-- A file is sorted by a child, and numbers have no faults but that there is no room for them. -/
theorem faultsOnly_sort (hhost : c.host.IsOrderly) :
    sort.FaultsOnly Fault.IsOrdinary c := by
  have hnumbers : ∀ r, (sortReply r).FaultsOnly Fault.IsOrdinary c := by
    intro r
    fun_cases sortReply with
    | case1 ds => exact faultsOnly_pure _
    | case2 w => exact (faultsOnly_writeErr _).bind fun _ => faultsOnly_pure _
    | case3 => exact faultsOnly_fail rfl
  intro _ args
  cases args with
  | nil => exact (faultsOnly_writeErrAll _).bind fun _ => faultsOnly_pure _
  | cons w ws =>
      refine faultsOnly_get.bind fun s =>
        (faultsOnly_ofExcept (Fault.isOrdinary_path _) _).bind fun isFile => ?_
      cases isFile with
      | true => exact (faultsOnly_runChild hhost _).bind fun _ => faultsOnly_pure _
      | false => exact faultsOnly_room.bind fun _ => hnumbers _

/-- A tree that cannot be drawn is a fault about its path. -/
theorem faultsOnly_tree : tree.FaultsOnly Fault.IsOrdinary c := by
  have hat : ∀ path, (treeAt path).FaultsOnly Fault.IsOrdinary c := by
    intro path
    refine faultsOnly_get.bind fun s =>
      (faultsOnly_ofExcept (Fault.isOrdinary_path _) _).bind fun isDirectory => ?_
    cases isDirectory with
    | true =>
        exact faultsOnly_depth.bind fun _ =>
          (faultsOnly_ofExcept Fault.isOrdinary_listing _).bind fun _ => faultsOnly_pure _
    | false => exact faultsOnly_fail rfl
  intro _ args
  show (runTree args).FaultsOnly _ c
  fun_cases runTree with
  | case1 => exact hat _
  | case2 path => exact hat _
  | case3 => exact faultsOnly_fail rfl

/-- Listing processes is left to a child. -/
theorem faultsOnly_processes (hhost : c.host.IsOrderly) :
    processes.FaultsOnly Fault.IsOrdinary c := by
  intro _ args
  cases args with
  | nil => exact (faultsOnly_runChild hhost _).bind fun _ => faultsOnly_pure _
  | cons w ws => exact faultsOnly_fail rfl

/-- Printing the history fails over its arguments at most. -/
theorem faultsOnly_history : history.FaultsOnly Fault.IsOrdinary c := by
  intro _ args
  cases args with
  | nil => exact faultsOnly_get.bind fun _ => faultsOnly_clock.bind fun _ => faultsOnly_pure _
  | cons w ws => exact faultsOnly_fail rfl

/-- A calculation has no fault but that it comes to no value. -/
theorem faultsOnly_calculator : calculator.FaultsOnly Fault.IsOrdinary c := by
  have hreply : ∀ r, (calcReply r).FaultsOnly Fault.IsOrdinary c := by
    intro r
    fun_cases calcReply with
    | case1 line => exact faultsOnly_pure _
    | case2 e => exact (faultsOnly_writeErr _).bind fun _ => faultsOnly_pure _
    | case3 f => exact faultsOnly_fail rfl
  intro _ args
  simp only [calculator]
  fun_cases runCalc args with
  | case1 => exact (faultsOnly_writeErrAll _).bind fun _ => faultsOnly_pure _
  | case2 => exact faultsOnly_room.bind fun _ => hreply _

/-- Help fails over its arguments at most. -/
theorem faultsOnly_help : help.FaultsOnly Fault.IsOrdinary c := by
  intro cat args
  show (runHelp cat args).FaultsOnly _ c
  fun_cases runHelp with
  | case1 => exact faultsOnly_pure _
  | case2 name => exact faultsOnly_pure _
  | case3 name =>
      rw [helpFor]
      split
      · exact faultsOnly_pure _
      · exact (faultsOnly_writeErrAll _).bind fun _ => faultsOnly_pure _
  | case4 => exact faultsOnly_fail rfl

end Command

namespace Session

variable {γ : Type} {part : Store → γ} {c : Context}

/-- **The commands of the shell are never interrupted** in an orderly world. -/
theorem faultsOnly_of_mem_builtins (hhost : c.host.IsOrderly) :
    ∀ p ∈ builtins, p.2.FaultsOnly Fault.IsOrdinary c := by
  intro p hp
  simp only [builtins, List.mem_cons, List.not_mem_nil, or_false] at hp
  rcases hp with rfl | rfl | rfl | rfl | rfl | rfl | rfl
  · exact Command.faultsOnly_sort hhost
  · exact Command.faultsOnly_tree
  · exact Command.faultsOnly_aliases
  · exact Command.faultsOnly_processes hhost
  · exact Command.faultsOnly_history
  · exact Command.faultsOnly_calculator
  · exact Command.faultsOnly_help

/-! ### Segments -/

/-- Whether an outcome is a success or a failure, the latter exactly under a condition, and with a
diagnostic. -/
def IsReported (o : Outcome Bool) (fails : Prop) : Prop :=
  ∃ b, o.result = .ok b ∧ (b = false ↔ fails) ∧ (b = false → Event.diagnostics o.events ≠ [])

/-- Where nothing can be executed that is said. -/
theorem isReported_failWith (diagnostic : String) (s : Store) :
    IsReported ((failWith diagnostic).run c s) True :=
  ⟨false, rfl, by simp, fun _ => List.cons_ne_nil diagnostic []⟩

/-- A command succeeds unless there is a fault. -/
theorem isReported_runCommand {cs : Commands} {command : Command}
    (h : command.FaultsOnly Fault.IsOrdinary c) (name : String) (args : List String) (s : Store) :
    IsReported ((runCommand cs name command args).run c s)
      (∃ e, ((command.run cs.catalogue args).run c s).result = .error e) := by
  have hordinary := h cs.catalogue args s
  rcases hrun : (command.run cs.catalogue args).run c s with ⟨r, t, es⟩
  rw [hrun] at hordinary
  cases r with
  | ok r =>
      rw [run_runCommand_of_run cs name hrun]
      exact ⟨true, rfl, by simp, by simp⟩
  | error e =>
      have he : e.isInterrupt = false := hordinary e rfl
      refine ⟨false, ?_, by simp, fun _ => ?_⟩
      · simp [runCommand, reportCommand, Except.map, hrun, he]
      · simp [runCommand, reportCommand, Event.diagnostics, hrun, he]

/-- The command line by which words go to a child, with the rest of the segment as it was typed. -/
def commandLineOf (ws : List String) (tail : String) : String :=
  Text.unwords (ws ++ if tail.isEmpty then [] else [tail])

/-- A child succeeds unless it failed, or there was no shell to run it. -/
theorem isReported_runExternal {s : Store} {commandLine : String}
    (h : (c.host.run c.shell s.disk commandLine).1.IsOrderly) :
    IsReported ((runExternal commandLine).run c s)
      (c.host.run c.shell s.disk commandLine).1.IsFailure := by
  have hresult := result_runChild commandLine c s
  rcases hrun : (runChild commandLine).run c s with ⟨r, t, es⟩
  rw [hrun] at hresult
  rw [runExternal, run_bind, run_attempt, hrun, andThen_ok]
  by_cases hfailure : (c.host.run c.shell s.disk commandLine).1.IsFailure
  · obtain ⟨e, he, hkind⟩ := Child.ofReply_of_isFailure hfailure commandLine
    rw [he] at hresult
    obtain rfl : r = .error (.child e) := hresult
    cases e with
    | unknown word child =>
        refine ⟨false, ?_, by simp [hfailure], fun _ => ?_⟩
        · simp [reportChild, Except.map]
        · simp [reportChild, Event.diagnostics]
    | failed word child =>
        refine ⟨false, ?_, by simp [hfailure], fun _ => ?_⟩
        · simp [reportChild, Except.map]
        · simp [reportChild, Event.diagnostics]
    | refused _ | interrupted => exact absurd hkind id
  · obtain ⟨child, hchild⟩ := Child.ofReply_of_not_isFailure h hfailure commandLine
    rw [hchild] at hresult
    obtain rfl : r = .ok child := hresult
    exact ⟨true, by simp [reportChild, Except.map], by simp [hfailure], by simp⟩

/-- Why a segment fails. -/
inductive Fails (cs : Commands) (c : Context) (s : Store) (text : String) : Prop where
  /-- It has no words. -/
  | empty (blank : Text.isBlankText text = true)
  /-- Its head does not resolve. -/
  | unresolved {head tail : String} {e : Alias.ResolveError}
      (parts : Text.headAndRest text = some (head, tail))
      (error : s.aliases.resolve s.maxPasses [head] = .error e)
  /-- Its head resolves to no words. -/
  | vanished {head tail : String} (parts : Text.headAndRest text = some (head, tail))
      (words : s.aliases.resolve s.maxPasses [head] = .ok [])
  /-- The command that its head stands for ends with a fault. -/
  | faulted {head tail name : String} {ws : List String} {command : Command} {e : Fault}
      (parts : Text.headAndRest text = some (head, tail))
      (words : s.aliases.resolve s.maxPasses [head] = .ok (name :: ws))
      (known : cs.lookup name = some command)
      (fault : ((command.run cs.catalogue (ws ++ Text.words tail)).run c s).result = .error e)
  /-- There is no such command, and the child that is run instead fails. -/
  | failed {head tail name : String} {ws : List String}
      (parts : Text.headAndRest text = some (head, tail))
      (words : s.aliases.resolve s.maxPasses [head] = .ok (name :: ws))
      (unknown : cs.lookup name = none)
      (reply : (c.host.run c.shell s.disk (commandLineOf (name :: ws) tail)).1.IsFailure)

/-- An outcome is reported under any condition that comes to the same. -/
theorem IsReported.congr {o : Outcome Bool} {fails fails' : Prop} (h : IsReported o fails)
    (hiff : fails ↔ fails') : IsReported o fails' := by
  rwa [← hiff]

/-- Behind a head that resolves to words, what these words stand for decides. -/
theorem fails_iff_of_resolve (cs : Commands) (c : Context) {s : Store}
    {text head tail name : String} {ws : List String} (hparts : Text.headAndRest text = some (head, tail))
    (hwords : s.aliases.resolve s.maxPasses [head] = .ok (name :: ws)) :
    Fails cs c s text ↔
      match cs.lookup name with
      | some command =>
          ∃ e, ((command.run cs.catalogue (ws ++ Text.words tail)).run c s).result = .error e
      | none => (c.host.run c.shell s.disk (commandLineOf (name :: ws) tail)).1.IsFailure := by
  constructor
  · rintro (blank | ⟨parts, error⟩ | ⟨parts, words⟩ | ⟨parts, words, known, fault⟩ |
      ⟨parts, words, unknown, reply⟩)
    · rw [Text.headAndRest_eq_none_iff.mpr blank] at hparts
      cases hparts
    -- the parts and the words of the segment are the ones at hand
    all_goals
      rw [hparts] at parts
      cases parts
    · rw [hwords] at error
      cases error
    all_goals
      rw [hwords] at words
      cases words
    · rw [known]
      exact ⟨_, fault⟩
    · rw [unknown]
      exact reply
  · cases hlookup : cs.lookup name with
    | some command =>
        rintro ⟨e, he⟩
        exact .faulted hparts hwords hlookup he
    | none => exact .failed hparts hwords hlookup

/-- **A segment is a success or a failure**, and a failure is reported. -/
theorem isReported_execute {cs : Commands} (hhost : c.host.IsOrderly)
    (hcs : ∀ p ∈ cs, p.2.FaultsOnly Fault.IsOrdinary c) (s : Store) (text : String) :
    IsReported ((execute cs text).run c s) (Fails cs c s text) := by
  cases hparts : Text.headAndRest text with
  | none =>
      rw [execute, hparts]
      have hblank : Text.isBlankText text = true := Text.headAndRest_eq_none_iff.mp hparts
      exact (isReported_failWith _ s).congr (iff_of_true trivial (.empty hblank))
  | some p =>
      obtain ⟨head, tail⟩ := p
      cases hwords : s.aliases.resolve s.maxPasses [head] with
      | error e =>
          rw [run_execute_of_resolve_error hparts c hwords]
          exact ⟨false, rfl, iff_of_true rfl (.unresolved hparts hwords), fun _ => List.cons_ne_nil _ _⟩
      | ok ws =>
          rw [run_execute_of_resolve hparts c hwords]
          cases ws with
          | nil => exact (isReported_failWith _ s).congr (iff_of_true trivial (.vanished hparts hwords))
          | cons name ws =>
              have hiff := fails_iff_of_resolve cs c hparts hwords
              rw [dispatch]
              cases hlookup : cs.lookup name with
              | some command =>
                  rw [hlookup] at hiff
                  have hcommand := hcs (name, command) (Commands.mem_of_lookup hlookup)
                  exact (isReported_runCommand hcommand name _ s).congr hiff.symm
              | none =>
                  rw [hlookup] at hiff
                  exact (isReported_runExternal (hhost _ _ _)).congr hiff.symm

/-- The command `alias` always succeeds. -/
theorem result_runCommand_aliases (cs : Commands) (name : String) (args : List String) (s : Store) :
    ((runCommand cs name Command.aliases args).run c s).result = .ok true := by
  have hnone := Command.faultsOnly_aliases (F := fun _ => False) (c := c) cs.catalogue args s
  rcases hrun : (Command.aliases.run cs.catalogue args).run c s with ⟨r, t, es⟩
  rw [hrun] at hnone
  cases r with
  | ok r => rw [run_runCommand_of_run cs name hrun]
  | error e => exact (hnone e rfl).elim

/-- **A segment that fails leaves all but the files as it was** when the commands are those of the
shell: the one that changes the aliases does not fail. -/
theorem eq_of_result_execute_false (hdisk : Store.IgnoresDisk part) {s : Store} {text : String}
    (h : ((execute builtins text).run c s).result = .ok false) :
    part ((execute builtins text).run c s).store = part s := by
  cases hparts : Text.headAndRest text with
  | none =>
      rw [execute, hparts]
      exact keeps_failWith _ c s
  | some p =>
      obtain ⟨head, tail⟩ := p
      cases hwords : s.aliases.resolve s.maxPasses [head] with
      | error e => rw [run_execute_of_resolve_error hparts c hwords]
      | ok ws =>
          rw [run_execute_of_resolve hparts c hwords] at h ⊢
          cases ws with
          | nil => exact keeps_failWith _ c s
          | cons name ws =>
              rw [dispatch] at h ⊢
              cases hlookup : builtins.lookup name with
              | none => exact keeps_runExternal hdisk _ c s
              | some command =>
                  have hmem := Commands.mem_of_lookup hlookup
                  by_cases hname : name = "alias"
                  · obtain rfl : command = Command.aliases := eq_aliases_of_mem_builtins hmem hname
                    simp only [hlookup, result_runCommand_aliases] at h
                    cases h
                  · exact keeps_runCommand _ name (keeps_of_mem_builtins_of_ne hdisk _ hmem hname) _ c s

/-- **Nothing that goes wrong in a segment gets out of it.** In an orderly world, with any commands that
are never interrupted, on any state and for any text, a segment comes to a truth value. It is false
exactly when the segment is empty, its head does not resolve or resolves to no words, the command that it
stands for ends with a fault, or there is none and the child that is run instead fails; and then there is
a diagnostic. The commands of the shell are such commands, and with them a segment that fails leaves the
log of the lines and the aliases as they were. -/
theorem execute_contains_failures {c : Context} (hhost : c.host.IsOrderly) :
    (∀ cs : Commands, (∀ p ∈ cs, p.2.FaultsOnly Fault.IsOrdinary c) → ∀ s text,
      ∃ b t events, (execute cs text).run c s = ⟨.ok b, t, events⟩ ∧
        (b = false ↔ Fails cs c s text) ∧ (b = false → Event.diagnostics events ≠ [])) ∧
    (∀ p ∈ builtins, p.2.FaultsOnly Fault.IsOrdinary c) ∧
    ∀ s text t events, (execute builtins text).run c s = ⟨.ok false, t, events⟩ →
      t.history = s.history ∧ t.aliases = s.aliases := by
  refine ⟨?_, faultsOnly_of_mem_builtins hhost, ?_⟩
  · intro cs hcs s text
    obtain ⟨b, hb, hfails, hdiagnostics⟩ := isReported_execute hhost hcs s text
    exact ⟨b, _, _, by rw [← hb], hfails, hdiagnostics⟩
  · intro s text t events hrun
    have hresult : ((execute builtins text).run c s).result = .ok false := by rw [hrun]
    have hhistory := eq_of_result_execute_false Store.isAside_history.disk hresult
    have haliases := eq_of_result_execute_false Store.ignoresDisk_aliases hresult
    rw [hrun] at hhistory haliases
    exact ⟨hhistory, haliases⟩

/-- Aliases that were not defined one by one may lead back to themselves. A segment that begins with one
of them fails, says so, and changes nothing. -/
theorem execute_of_loop :
    emptyHost.IsOrderly ∧
      ∃ t events, (execute builtins "a x").run ⟨emptyHost, none⟩
          ⟨⟨["a x"]⟩, .ofList [("a", "b"), ("b", "a")], 10, .empty⟩ = ⟨.ok false, t, events⟩ ∧
        Event.diagnostics events ≠ [] ∧ t.history.entries = ["a x"] ∧
        t.aliases.entries = [("a", "b"), ("b", "a")] := by
  have hhost : emptyHost.IsOrderly := fun _ _ _ => trivial
  obtain ⟨hcontained, hordinary, hkept⟩ :=
    execute_contains_failures (c := ⟨emptyHost, none⟩) hhost
  obtain ⟨b, t, events, hrun, hfails, hdiagnostics⟩ := hcontained builtins hordinary
    ⟨⟨["a x"]⟩, .ofList [("a", "b"), ("b", "a")], 10, .empty⟩ "a x"
  have hparts : Text.headAndRest "a x" = some ("a", "x") := by decide +kernel
  have hloop : (Alias.Table.ofList [("a", "b"), ("b", "a")]).resolve 10 ["a"] = .error .loop := by
    decide +kernel
  obtain rfl : b = false := hfails.mpr (.unresolved hparts hloop)
  obtain ⟨hhistory, haliases⟩ := hkept _ _ t events hrun
  refine ⟨hhost, t, events, hrun, hdiagnostics rfl, by rw [hhistory], ?_⟩
  rw [haliases]
  decide +kernel

end Session

end LineShell
