import LineShell.Proofs.Settings.Loading

/-!
# Settings and the types of their values

Each setting has a type, and a value of another type should leave it as it is without a file. What an
object sets by this rule are its `typed` settings: all of them are `taken` in one way, with a reader for
the values of the type.

The members that make settings keep to the rule but for two values (`ofMembers_eq_typed`). There is no
number of passes to fall back to where an infinite one is asked for. And the shell is not asked for its
type: whatever is neither empty nor zero nor false is shown as a text, and this text is taken for the name
of a shell (`shellOf?_eq_shellName?_iff`).

**Main statement** (`start_of_object`): for any object in the settings file, the session starts with its
typed settings exactly if it holds neither of these values. What it starts with otherwise differs in the
shell alone, and members that do not count never make a difference.
-/

namespace LineShell

namespace Settings

/-! ### Typed settings -/

/-- What a setting is: what the value of its member is read as, and otherwise its default, if there is no
member or its value is of another type. -/
def taken {α : Type} (read : Json → Option α) (otherwise : α) (v : Option Json) : α :=
  (v.bind read).getD otherwise

/-- The number of passes that a value sets, if it gives a whole number. -/
def passes? (v : Json) : Option Int :=
  match Whole.ofJson v with
  | .number n => some (max 1 n)
  | _ => none

/-- The shell that a value names, if it is a text and not empty. -/
def shellName? : Json → Option WideText
  | .str s => if s.isEmpty then none else some s
  | _ => none

/-- The settings that an object makes when each of them is taken from values of its type only. -/
def typed (ms : List (WideText × Json)) : Settings where
  maxPasses := taken passes? defaultMaxPasses (member? "expand_max_passes" ms)
  prompt := taken textOf? default.prompt (member? "prompt" ms)
  logLevel := taken (fun v => (textOf? v).map fun s => some s.upper) none
    (member? "log_level" ms)
  shell := taken (fun v => (shellName? v).map some) none (member? "shell" ms)

/-- What is optional is taken if there is anything to take. -/
theorem taken_map_some {α : Type} (read : Json → Option α) (v : Option Json) :
    taken (fun w => (read w).map some) none v = v.bind read := by
  rw [taken]
  cases v with
  | none => rfl
  | some w => cases h : read w <;> simp [h]

/-! ### Passes and shells -/

/-- Unless an infinity is asked for, the passes are those of the type. -/
theorem exists_passesOf_eq_taken {v : Option Json}
    (h : ∀ negative, v ≠ some (.float (.infinite negative))) :
    ∃ ws, passesOf v = .ok (taken passes? defaultMaxPasses v, ws) := by
  cases v with
  | none => exact ⟨[], rfl⟩
  | some v =>
      have hfinite : Whole.ofJson v ≠ .infinite := by
        rw [Ne, Whole.ofJson_eq_infinite_iff]
        rintro ⟨negative, rfl⟩
        exact h negative rfl
      rw [passesOf]
      cases hv : Whole.ofJson v with
      | number n => exact ⟨[], by simp [taken, passes?, hv]⟩
      | unusable => exact ⟨[.passesKept defaultMaxPasses], by simp [taken, passes?, hv]⟩
      | infinite => exact absurd hv hfinite

/-- An infinity is an error. -/
theorem passesOf_infinite (negative : Bool) :
    passesOf (some (.float (.infinite negative))) = .error .infinite := rfl

/-- **The shell is that of the type** unless a value that is no text counts as true. -/
theorem shellOf?_eq_shellName?_iff {v : Json} :
    shellOf? v = shellName? v ↔ (v.isTruthy = true → ∃ s, v = .str s) := by
  cases v with
  | str s => cases h : s.isEmpty <;> simp [shellOf?, shellName?, Json.isTruthy, Json.display, h]
  | null | bool _ | int _ | float _ | arr _ | obj _ => simp [shellOf?, shellName?]

/-! ### Members -/

/-- Members that agree on the names that count make the same settings. -/
theorem ofMembers_congr {ms ns : List (WideText × Json)} (h : ∀ k ∈ keys, member? k ms = member? k ns) :
    ofMembers ms = ofMembers ns := by
  simp only [keys, List.forall_mem_cons] at h
  obtain ⟨hpasses, hprompt, hlevel, hshell, -⟩ := h
  rw [ofMembers, ofMembers, hpasses, hprompt, hlevel, hshell]

/-- Unless an infinity is asked for, all settings but the shell are the typed ones. -/
theorem ofMembers_eq_typed {ms : List (WideText × Json)}
    (h : ∀ negative, member? "expand_max_passes" ms ≠ some (.float (.infinite negative))) :
    ∃ ws, ofMembers ms = .ok ({ typed ms with shell := (member? "shell" ms).bind shellOf? }, ws) := by
  obtain ⟨ws, hpasses⟩ := exists_passesOf_eq_taken h
  refine ⟨ws, ?_⟩
  have hlevel : taken (fun v => (textOf? v).map fun s => some s.upper) none
      (member? "log_level" ms) = ((member? "log_level" ms).bind textOf?).map WideText.upper := by
    rw [taken]
    cases member? "log_level" ms with
    | none => rfl
    | some v => cases hv : textOf? v <;> simp [hv]
  rw [ofMembers, hpasses, typed, hlevel]
  rfl

/-- What a session starts with is what the members of the object make. -/
theorem result_start_of_object {nesting : Nat} {d : Disk} {path : String} {node : Node} {ms : List (WideText × Json)}
    (hpath : path ≠ "") (hnode : d.find (Path.ofString path) = .ok node) (hholds : Holds nesting node (.obj ms)) :
    (Session.start nesting d (some path)).result =
      ((ofMembers ms).mapError Error.passes).map fun r => Session.fresh Session.builtins r.1 d := by
  have hknown : ofMembers (knownMembers ms) = ofMembers ms :=
    ofMembers_congr fun k hk => member?_knownMembers hk ms
  rw [Session.start, load_of_holds hpath hnode hholds]
  simp only [membersOfJson, finish, hknown]
  cases ofMembers ms <;> rfl

/-! ### The session -/

/-- **What an object in the settings file comes to.** The session starts with the typed settings of the
object exactly if no infinite number of passes is asked for and no value counts as the name of a shell
though it is no text. With an infinite number of passes it does not start. Otherwise all settings are the
typed ones but for the shell, which is what the value is shown as. And if another file holds an object
with the same values under the names that count, whatever else is in it, the session starts with the same
settings or does not start for the same reason. -/
theorem start_of_object {nesting : Nat} {d : Disk} {path : String} {node : Node} {ms : List (WideText × Json)}
    (hpath : path ≠ "") (hnode : d.find (Path.ofString path) = .ok node)
    (hholds : Holds nesting node (.obj ms)) :
    -- the settings are the typed ones
    ((Session.start nesting d (some path)).result = .ok (Session.fresh Session.builtins (typed ms) d) ↔
      (∀ negative, member? "expand_max_passes" ms ≠ some (.float (.infinite negative))) ∧
        ∀ v, member? "shell" ms = some v → v.isTruthy = true → ∃ s, v = .str s) ∧
    -- an infinite number of passes
    (∀ negative, member? "expand_max_passes" ms = some (.float (.infinite negative)) →
      (Session.start nesting d (some path)).result = .error (.passes .infinite)) ∧
    -- the one setting that may be another
    (∀ s, (Session.start nesting d (some path)).result = .ok s →
      s = Session.fresh Session.builtins { typed ms with shell := s.settings.shell } d ∧
        ∀ v, member? "shell" ms = some v → v.isTruthy = true → s.settings.shell = some v.display) ∧
    -- members that do not count
    ∀ nesting' d' path' node' ms', path' ≠ "" → d'.find (Path.ofString path') = .ok node' →
      Holds nesting' node' (.obj ms') → (∀ k ∈ keys, member? k ms' = member? k ms) →
        (Session.start nesting' d' (some path')).result.map Session.settings =
          (Session.start nesting d (some path)).result.map Session.settings := by
  have hresult := result_start_of_object hpath hnode hholds
  have hinfinite : ∀ negative, member? "expand_max_passes" ms = some (.float (.infinite negative)) →
      (Session.start nesting d (some path)).result = .error (.passes .infinite) := by
    intro negative h
    rw [hresult, ofMembers, h, passesOf_infinite]
    rfl
  have hstarted : (∀ negative, member? "expand_max_passes" ms ≠ some (.float (.infinite negative))) →
      (Session.start nesting d (some path)).result =
        .ok (Session.fresh Session.builtins
          { typed ms with shell := (member? "shell" ms).bind shellOf? } d) := by
    intro h
    obtain ⟨ws, hms⟩ := ofMembers_eq_typed h
    rw [hresult, hms]
    rfl
  have hfinite : ∀ s, (Session.start nesting d (some path)).result = .ok s →
      ∀ negative, member? "expand_max_passes" ms ≠ some (.float (.infinite negative)) := by
    intro s hs negative hpasses
    rw [hinfinite negative hpasses] at hs
    cases hs
  refine ⟨⟨fun h => ⟨hfinite _ h, fun v hv => ?_⟩, fun h => ?_⟩, hinfinite, fun s hs => ?_, ?_⟩
  · rw [hstarted (hfinite _ h)] at h
    have hshell : (member? "shell" ms).bind shellOf? = (typed ms).shell :=
      congrArg (fun s : Session => s.settings.shell) (Except.ok.inj h)
    rw [typed, taken_map_some, hv] at hshell
    exact shellOf?_eq_shellName?_iff.mp hshell
  · have hsame : (member? "shell" ms).bind shellOf? = (typed ms).shell := by
      rw [typed, taken_map_some]
      cases hv : member? "shell" ms with
      | none => rfl
      | some v => exact shellOf?_eq_shellName?_iff.mpr (h.2 v hv)
    rw [hstarted h.1, hsame]
  · rw [hstarted (hfinite s hs)] at hs
    cases hs
    refine ⟨rfl, fun v hv htruthy => ?_⟩
    show (member? "shell" ms).bind shellOf? = _
    rw [hv, Option.bind_some, shellOf?, if_pos htruthy]
  · intro nesting' d' path' node' ms' hpath' hnode' hholds' hsame
    rw [result_start_of_object hpath' hnode' hholds', hresult, ofMembers_congr hsame]
    cases ofMembers ms <;> rfl

/-- An object with values of other types, and another one with a member that does not count. -/
theorem start_of_prompt_without_text :
    defaultPath ≠ "" ∧
      (Session.start 2 (diskWith "\x7b\"prompt\": 5, \"expand_max_passes\": \"0\"\x7d")
        (some defaultPath)).result.map Session.settings = .ok { Settings.default with maxPasses := 1 } ∧
      (Session.start 2 (diskWith "\x7b\"theme\": [], \"expand_max_passes\": \"0\", \"prompt\": 5\x7d")
        (some defaultPath)).result.map Session.settings = .ok { Settings.default with maxPasses := 1 } := by
  have hpath : defaultPath ≠ "" := by decide
  have hread : Json.read 2 "\x7b\"prompt\": 5, \"expand_max_passes\": \"0\"\x7d".toList =
      .ok (.obj [("prompt", .int 5), ("expand_max_passes", .str "0")]) := by
    with_unfolding_all rfl
  have hholds : Holds 2
      (.file (Utf8.encode "\x7b\"prompt\": 5, \"expand_max_passes\": \"0\"\x7d".toList))
      (.obj [("prompt", .int 5), ("expand_max_passes", .str "0")]) :=
    ⟨_, _, rfl, by decide +kernel, hread⟩
  have hreadMore :
      Json.read 2 "\x7b\"theme\": [], \"expand_max_passes\": \"0\", \"prompt\": 5\x7d".toList =
        .ok (.obj [("theme", .arr []), ("expand_max_passes", .str "0"), ("prompt", .int 5)]) := by
    with_unfolding_all rfl
  have hmore : Holds 2
      (.file (Utf8.encode
        "\x7b\"theme\": [], \"expand_max_passes\": \"0\", \"prompt\": 5\x7d".toList))
      (.obj [("theme", .arr []), ("expand_max_passes", .str "0"), ("prompt", .int 5)]) :=
    ⟨_, _, rfl, by decide +kernel, hreadMore⟩
  obtain ⟨htyped, -, -, hothers⟩ :=
    @start_of_object 2 (diskWith "\x7b\"prompt\": 5, \"expand_max_passes\": \"0\"\x7d") _ _ _ hpath rfl
      hholds
  have hstart := htyped.mpr ⟨by simp, by simp⟩
  have hmembers : typed [("prompt", .int 5), ("expand_max_passes", .str "0")] =
      { Settings.default with maxPasses := 1 } := by decide +kernel
  rw [hmembers] at hstart
  rw [hothers 2 (diskWith "\x7b\"theme\": [], \"expand_max_passes\": \"0\", \"prompt\": 5\x7d") _ _ _
    hpath rfl hmore (by simp [keys]), hstart]
  exact ⟨hpath, rfl, rfl⟩

/-- **A truth value is taken for a shell**: it is shown as a text, and this is the name. -/
theorem start_of_truth_for_shell :
    (Session.start 2 (diskWith "\x7b\"shell\": true\x7d") (some defaultPath)).result.map Session.settings =
        .ok { Settings.default with shell := some "True" } ∧
      (typed [("shell", .bool true)]).shell = none := by
  decide +kernel

end Settings

end LineShell
