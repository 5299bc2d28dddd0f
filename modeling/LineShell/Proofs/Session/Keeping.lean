import LineShell.Session.Basic

/-!
# What acts leave alone

An act `Keeps` a part of the state when that part is the same afterwards, however the act ends. Acts
that are put together from such acts are such acts, so what a command keeps is read off its text.

**Main statement** (`Session.keeps_of_mem_builtins`): the commands of the shell keep every part of the
state that has nothing to do with the files and the aliases, and with them so does the execution of
segments (`Session.keeps_executeAll`). The log of the lines is such a part. The aliases themselves are
kept by all commands but one (`Session.keeps_of_mem_builtins_of_ne`).
-/

namespace LineShell

/-- A part of the state that has nothing to do with the files. -/
def Store.IgnoresDisk {γ : Type} (part : Store → γ) : Prop :=
  ∀ s d, part { s with disk := d } = part s

/-- The aliases have nothing to do with the files. -/
theorem Store.ignoresDisk_aliases : IgnoresDisk Store.aliases := fun _ _ => rfl

/-- A part of the state that has nothing to do with the files and the aliases. -/
structure Store.IsAside {γ : Type} (part : Store → γ) : Prop where
  /-- Other files do not matter to it. -/
  disk : IgnoresDisk part
  /-- Other aliases do not matter to it. -/
  aliases : ∀ s t, part { s with aliases := t } = part s

/-- The log of the lines has nothing to do with the files and the aliases. -/
theorem Store.isAside_history : IsAside Store.history := ⟨fun _ _ => rfl, fun _ _ => rfl⟩

namespace Act

/-- Whether an act leaves a part of the state as it is, even if a fault ends the act. -/
def Keeps {α γ : Type} (part : Store → γ) (x : Act α) : Prop :=
  ∀ c s, part (x.run c s).store = part s

variable {α β γ ε : Type} {part : Store → γ}

/-! ### Acts that leave the state alone -/

theorem keeps_pure (a : α) : Keeps part (pure a : Act α) := fun _ _ => rfl

theorem keeps_fail (e : Fault) : Keeps part (fail e : Act α) := fun _ _ => rfl

theorem keeps_writeErr (text : String) : Keeps part (writeErr text) := fun _ _ => rfl

theorem keeps_note (n : Note) : Keeps part (note n) := fun _ _ => rfl

theorem keeps_get : Keeps part get := fun _ _ => rfl

theorem keeps_clock : Keeps part clock := fun _ _ => rfl

theorem keeps_room : Keeps part room := fun _ _ => rfl

theorem keeps_depth : Keeps part depth := fun _ _ => rfl

theorem keeps_writeErrAll (ls : List String) : Keeps part (writeErrAll ls) := by
  intro c s
  rw [run_writeErrAll]

theorem keeps_ofExcept (toFault : ε → Fault) (r : Except ε α) : Keeps part (ofExcept toFault r) := by
  cases r with
  | error e => exact keeps_fail _
  | ok a => exact keeps_pure _

/-! ### Acts that are put together -/

/-- One act after another keeps what both keep. -/
theorem Keeps.bind {x : Act α} {f : α → Act β} (hx : x.Keeps part) (hf : ∀ a, (f a).Keeps part) :
    (x >>= f).Keeps part := by
  intro c s
  rw [run_bind]
  have hstore := hx c s
  rcases hrun : x.run c s with ⟨r, s', es⟩
  rw [hrun] at hstore
  cases r with
  | error e => exact hstore
  | ok a => exact (hf a c s').trans hstore

/-- An act keeps the same when its fault is made a value. -/
theorem Keeps.attempt {x : Act α} (hx : x.Keeps part) : x.attempt.Keeps part := fun c s => hx c s

/-- A change that does not matter to a part keeps it. -/
theorem keeps_modify {f : Store → Store} (h : ∀ s, part (f s) = part s) : Keeps part (modify f) :=
  fun _ s => h s

/-- A child may change files, but nothing else. -/
theorem keeps_runChild (hdisk : Store.IgnoresDisk part) (commandLine : String) :
    Keeps part (runChild commandLine) := by
  refine Keeps.bind (fun c s => hdisk s _) fun r => Keeps.bind ?_ fun _ => keeps_ofExcept _ _
  cases r.child? commandLine with
  | none => exact keeps_pure _
  | some c => exact keeps_note _

end Act

open Act

/-- Whether a command leaves a part of the state as it is, whatever its arguments are. -/
def Command.Keeps {γ : Type} (part : Store → γ) (c : Command) : Prop :=
  ∀ cat args, (c.run cat args).Keeps part

variable {γ : Type} {part : Store → γ}

/-- Writing an answer leaves the state alone. -/
theorem Reply.keeps_write (r : Reply) : r.write.Keeps part := by
  intro c s
  rw [Reply.run_write]

namespace Command

/-! ### The commands of the shell -/

/-- Sorting numbers writes diagnostics at most. -/
theorem keeps_sortReply (r : Except NumberError (List Decimal)) : (sortReply r).Keeps part := by
  fun_cases sortReply with
  | case1 ds => exact keeps_pure _
  | case2 w => exact (keeps_writeErr _).bind fun _ => keeps_pure _
  | case3 => exact keeps_fail _

/-- Sorting a file has the system do it. -/
theorem keeps_sort (hdisk : Store.IgnoresDisk part) : sort.Keeps part := by
  intro _ args
  cases args with
  | nil => exact (keeps_writeErrAll _).bind fun _ => keeps_pure _
  | cons w ws =>
      refine keeps_get.bind fun s => (keeps_ofExcept _ _).bind fun isFile => ?_
      cases isFile with
      | true => exact (keeps_runChild hdisk _).bind fun _ => keeps_pure _
      | false => exact keeps_room.bind fun _ => keeps_sortReply _

/-- Drawing a tree only looks at the files. -/
theorem keeps_tree : tree.Keeps part := by
  have hat : ∀ path, (treeAt path).Keeps part := by
    intro path
    refine keeps_get.bind fun s => (keeps_ofExcept _ _).bind fun isDirectory => ?_
    cases isDirectory with
    | true => exact keeps_depth.bind fun _ => (keeps_ofExcept _ _).bind fun _ => keeps_pure _
    | false => exact keeps_fail _
  intro _ args
  show (runTree args).Keeps part
  fun_cases runTree with
  | case1 => exact hat _
  | case2 path => exact hat _
  | case3 => exact keeps_fail _

/-- Notes leave the state alone. -/
theorem keeps_noteAll (ns : List Note) : (noteAll ns).Keeps part := by
  induction ns with
  | nil => exact keeps_pure _
  | cons n ns ih => exact (keeps_note n).bind fun _ => ih

/-- The aliases are all that a definition changes. -/
theorem keeps_defineAlias (hpart : Store.IsAside part) (name text : String) :
    (defineAlias name text).Keeps part := by
  unfold defineAlias
  split
  · exact (keeps_writeErr _).bind fun _ => keeps_pure _
  · refine keeps_get.bind fun s => (keeps_noteAll _).bind fun _ => ?_
    split
    · exact (keeps_modify fun s => hpart.aliases s _).bind fun _ => keeps_pure _
    · exact (keeps_writeErr _).bind fun _ => keeps_pure _

/-- The aliases are all that the command `alias` changes. -/
theorem keeps_aliases (hpart : Store.IsAside part) : aliases.Keeps part := by
  intro _ args
  show (runAlias (.ofArgs args)).Keeps part
  cases AliasRequest.ofArgs args with
  | all => exact keeps_get.bind fun _ => keeps_pure _
  | one name => exact keeps_get.bind fun _ => keeps_pure _
  | define name text => exact keeps_defineAlias hpart name text

/-- Listing processes has the system do it. -/
theorem keeps_processes (hdisk : Store.IgnoresDisk part) : processes.Keeps part := by
  intro _ args
  cases args with
  | nil => exact (keeps_runChild hdisk _).bind fun _ => keeps_pure _
  | cons w ws => exact keeps_fail _

/-- Printing the history only looks at it. -/
theorem keeps_history : history.Keeps part := by
  intro _ args
  cases args with
  | nil => exact keeps_get.bind fun _ => keeps_clock.bind fun _ => keeps_pure _
  | cons w ws => exact keeps_fail _

/-- What comes of an evaluation is written at most. -/
theorem keeps_calcReply (r : Except Calc.Failure String) : (calcReply r).Keeps part := by
  fun_cases calcReply with
  | case1 line => exact keeps_pure _
  | case2 e => exact (keeps_writeErr _).bind fun _ => keeps_pure _
  | case3 f => exact keeps_fail _

/-- A calculation leaves the state alone. -/
theorem keeps_calculator : calculator.Keeps part := by
  intro _ args
  simp only [calculator]
  fun_cases runCalc args with
  | case1 => exact (keeps_writeErrAll _).bind fun _ => keeps_pure _
  | case2 => exact keeps_room.bind fun _ => keeps_calcReply _

/-- Help writes diagnostics at most. -/
theorem keeps_help : help.Keeps part := by
  intro cat args
  show (runHelp cat args).Keeps part
  fun_cases runHelp with
  | case1 => exact keeps_pure _
  | case2 name => exact keeps_pure _
  | case3 name =>
      unfold helpFor
      split
      · exact keeps_pure _
      · exact (keeps_writeErrAll _).bind fun _ => keeps_pure _
  | case4 => exact keeps_fail _

end Command

namespace Session

/-- **The commands of the shell but `alias` touch nothing but files.** -/
theorem keeps_of_mem_builtins_of_ne (hdisk : Store.IgnoresDisk part) :
    ∀ p ∈ builtins, p.1 ≠ "alias" → p.2.Keeps part := by
  intro p hp hne
  simp only [builtins, List.mem_cons, List.not_mem_nil, or_false] at hp
  rcases hp with rfl | rfl | rfl | rfl | rfl | rfl | rfl
  · exact Command.keeps_sort hdisk
  · exact Command.keeps_tree
  · exact absurd rfl hne
  · exact Command.keeps_processes hdisk
  · exact Command.keeps_history
  · exact Command.keeps_calculator
  · exact Command.keeps_help

/-- The command of that name is the one that defines aliases. -/
theorem eq_aliases_of_mem_builtins {p : String × Command} (hp : p ∈ builtins) (hname : p.1 = "alias") :
    p.2 = Command.aliases := by
  simp only [builtins, List.mem_cons, List.not_mem_nil, or_false] at hp
  rcases hp with rfl | rfl | rfl | rfl | rfl | rfl | rfl
  case inr.inr.inl => rfl
  all_goals exact absurd hname (by decide)

/-- **The commands of the shell touch nothing but files and aliases.** -/
theorem keeps_of_mem_builtins (hpart : Store.IsAside part) :
    ∀ p ∈ builtins, p.2.Keeps part := by
  intro p hp
  by_cases hname : p.1 = "alias"
  · rw [eq_aliases_of_mem_builtins hp hname]
    exact Command.keeps_aliases hpart
  · exact keeps_of_mem_builtins_of_ne hpart.disk p hp hname

/-! ### Segments -/

/-- Reporting on a child leaves the state alone. -/
theorem keeps_reportChild (r : Except Fault Child) : (reportChild r).Keeps part := by
  fun_cases reportChild with
  | case1 c =>
      exact (Reply.keeps_write _).bind fun _ => (keeps_writeErrAll _).bind fun _ => keeps_pure _
  | case2 word child => exact (keeps_writeErrAll _).bind fun _ => keeps_pure _
  | case3 word child =>
      exact (Reply.keeps_write _).bind fun _ => (keeps_writeErr _).bind fun _ => keeps_pure _
  | case4 e => exact keeps_fail _

/-- Reporting on a command leaves the state alone. -/
theorem keeps_reportCommand (name : String) (r : Except Fault Reply) :
    (reportCommand name r).Keeps part := by
  fun_cases reportCommand with
  | case1 r => exact (Reply.keeps_write _).bind fun _ => keeps_pure _
  | case2 e => exact keeps_fail _
  | case3 e =>
      exact (keeps_note _).bind fun _ => (keeps_writeErr _).bind fun _ => keeps_pure _

/-- A command line that is handed on keeps what has nothing to do with the files. -/
theorem keeps_runExternal (hdisk : Store.IgnoresDisk part) (commandLine : String) :
    (runExternal commandLine).Keeps part :=
  (keeps_runChild hdisk _).attempt.bind fun r => keeps_reportChild r

/-- A command that is run and reported on keeps what it keeps by itself. -/
theorem keeps_runCommand (cs : Commands) (name : String) {command : Command}
    (hcommand : command.Keeps part) (args : List String) :
    (runCommand cs name command args).Keeps part :=
  (hcommand _ _).attempt.bind fun r => keeps_reportCommand name r

/-- Where nothing can be executed a diagnostic is all. -/
theorem keeps_failWith (diagnostic : String) : (failWith diagnostic).Keeps part :=
  (keeps_writeErr _).bind fun _ => keeps_pure _

/-- Dispatching keeps what the commands keep. -/
theorem keeps_dispatch (hpart : Store.IsAside part) {cs : Commands}
    (hcs : ∀ p ∈ cs, p.2.Keeps part) (tail : String) (ws : List String) :
    (dispatch cs tail ws).Keeps part := by
  cases ws with
  | nil => exact keeps_failWith _
  | cons name ws =>
      rw [dispatch]
      cases hlookup : cs.lookup name with
      | none => exact keeps_runExternal hpart.disk _
      | some command =>
          exact keeps_runCommand _ name (hcs (name, command) (Commands.mem_of_lookup hlookup)) _

/-- Executing a segment keeps what the commands keep. -/
theorem keeps_execute (hpart : Store.IsAside part) {cs : Commands}
    (hcs : ∀ p ∈ cs, p.2.Keeps part) (text : String) : (execute cs text).Keeps part := by
  rw [execute]
  cases Text.headAndRest text with
  | none => exact keeps_failWith _
  | some p =>
      obtain ⟨head, tail⟩ := p
      have hresolve : (resolve [head]).Keeps part := keeps_get.bind fun s => keeps_ofExcept _ _
      refine hresolve.attempt.bind fun r => ?_
      cases r with
      | error e => exact keeps_failWith _
      | ok ws => exact keeps_dispatch hpart hcs tail ws

/-- **Executing segments keeps what the commands keep.** -/
theorem keeps_executeAll (hpart : Store.IsAside part) {cs : Commands}
    (hcs : ∀ p ∈ cs, p.2.Keeps part) (succeeded : Bool) (segments : List Segment) :
    (executeAll cs succeeded segments).Keeps part := by
  induction segments generalizing succeeded with
  | nil => exact keeps_pure _
  | cons segment rest ih =>
      rw [executeAll]
      split
      · exact (keeps_execute hpart hcs segment.text).bind fun b => ih b
      · exact keeps_pure _

end Session

end LineShell
