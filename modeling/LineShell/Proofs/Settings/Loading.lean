import LineShell.Proofs.Json.Nesting
import LineShell.Session.Basic
import Mathlib.Data.List.Chain

/-!
# What a settings file comes to

Whatever stands in place of the settings file, a session starts with it, with two exceptions: a text
that nests too deeply to be read (`IsTooDeep`), and an object that asks for an infinite number of passes
(`AsksForInfinity`). For neither of them is there a default to fall back to. All else that is wrong with
the file is a warning: what cannot be read as JSON is ignored, and so is a value that is no object; a
number of passes that is of no use leaves the one that is in force.

**Main statement** (`start_of_find`): this, for anything that can be found at the path of the settings.
-/

namespace LineShell

namespace Settings

/-! ### What is at the path -/

/-- Whether a node can be read, and what is read is a value written as JSON in UTF-8. -/
def Holds (nesting : Nat) (node : Node) (v : Json) : Prop :=
  ∃ bytes cs, Disk.bytesOf? node = some bytes ∧ Utf8.decode? bytes = some cs ∧ Json.read nesting cs = .ok v

/-- A node holds one value at most. -/
theorem Holds.unique {nesting : Nat} {node : Node} {v w : Json} (hv : Holds nesting node v) (hw : Holds nesting node w) : v = w := by
  obtain ⟨bytes, cs, hbytes, hcs, hv⟩ := hv
  obtain ⟨bytes', cs', hbytes', hcs', hw⟩ := hw
  obtain rfl := Option.some.inj (hbytes.symm.trans hbytes')
  obtain rfl := Option.some.inj (hcs.symm.trans hcs')
  exact Except.ok.inj (hv.symm.trans hw)

/-- Whether a node can be read, and what is read nests too deeply. -/
def IsTooDeep (nesting : Nat) (node : Node) : Prop :=
  ∃ bytes cs c, Disk.bytesOf? node = some bytes ∧ Utf8.decode? bytes = some cs ∧
    Json.NestsTooDeeply nesting cs c

/-- The members that count in a node, with the warnings about it. -/
def membersOfNode (nesting : Nat) (path : String) (node : Node) :
    Except Error (List (WideText × Json) × List Warning) :=
  match Disk.bytesOf? node with
  | some bytes => membersOfBytes nesting path bytes
  | none => .ok ([], [.invalid path])

variable {nesting : Nat}

/-- What is found at a path is what counts. -/
theorem members_of_find {d : Disk} {path : String} {node : Node}
    (h : d.find (Path.ofString path) = .ok node) :
    members nesting d path = membersOfNode nesting (Path.ofString path).text node := by
  have hnode : d.hasNode (Path.ofString path) = .ok true := by
    rw [Disk.hasNode, Disk.test, h]
  have hread : d.read (Path.ofString path) = Disk.bytesOf? node := by
    rw [Disk.read, h]
    rfl
  simp only [members, hnode, hread]
  rfl

/-- A value gives the members that it has. -/
theorem membersOfNode_of_holds {node : Node} {v : Json} (h : Holds nesting node v) (path : String) :
    membersOfNode nesting path node = .ok (membersOfJson path v) := by
  obtain ⟨bytes, cs, hbytes, hcs, hv⟩ := h
  rw [membersOfNode, hbytes]
  simp only [membersOfBytes, hcs, hv]

/-- A text that nests too deeply is an error. -/
theorem membersOfNode_of_isTooDeep {node : Node} (h : IsTooDeep nesting node) (path : String) :
    ∃ e, membersOfNode nesting path node = .error (.nesting e) := by
  obtain ⟨bytes, cs, c, hbytes, hcs, hdeep⟩ := h
  refine ⟨.tooDeep c, ?_⟩
  rw [membersOfNode, hbytes]
  simp only [membersOfBytes, hcs, Json.read_eq_tooDeep_iff.mpr hdeep]

/-- Brackets that open lists are enough to nest too deeply. -/
example : (Json.read 3 "[[[[".toList).map (fun _ => ()) = .error (.tooDeep .list) := by decide +kernel

/-- Anything else is ignored with a warning. -/
theorem membersOfNode_of_not_holds {node : Node} (hdeep : ¬ IsTooDeep nesting node)
    (h : ∀ v, ¬ Holds nesting node v) (path : String) :
    membersOfNode nesting path node = .ok ([], [.invalid path]) := by
  rw [membersOfNode]
  cases hbytes : Disk.bytesOf? node with
  | none => rfl
  | some bytes =>
      simp only [membersOfBytes]
      cases hcs : Utf8.decode? bytes with
      | none => rfl
      | some cs =>
          cases hread : Json.read nesting cs with
          | ok v => exact absurd ⟨bytes, cs, hbytes, hcs, hread⟩ (h v)
          | error e =>
              cases e with
              | invalid => simp [hread]
              | tooDeep c =>
                  exact absurd ⟨bytes, cs, c, hbytes, hcs, Json.read_eq_tooDeep_iff.mp hread⟩ hdeep

/-- The members that count are an error only where the text nests too deeply. -/
theorem exists_membersOfNode_iff (path : String) {node : Node} :
    (∃ r, membersOfNode nesting path node = .ok r) ↔ ¬ IsTooDeep nesting node := by
  constructor
  · rintro ⟨r, hr⟩ hdeep
    obtain ⟨e, he⟩ := membersOfNode_of_isTooDeep hdeep path
    rw [he] at hr
    cases hr
  · intro hdeep
    by_cases h : ∃ v, Holds nesting node v
    · obtain ⟨v, hv⟩ := h
      exact ⟨_, membersOfNode_of_holds hv path⟩
    · exact ⟨_, membersOfNode_of_not_holds hdeep (not_exists.mp h) path⟩

/-! ### The number of passes -/

/-- Only an infinity is worse than of no use. -/
theorem Whole.ofJson_eq_infinite_iff {v : Json} :
    Whole.ofJson v = .infinite ↔ ∃ negative, v = .float (.infinite negative) := by
  cases v with
  | float x => cases x <;> simp [Whole.ofJson, Binary64.toDecimal?]
  | str s => simp only [Whole.ofJson]; split <;> simp
  | null | bool b | int n | arr items | obj members => simp [Whole.ofJson]

/-- Whether a value is an object that asks for an infinite number of passes. -/
def AsksForInfinity (v : Json) : Prop :=
  ∃ ms negative, v = .obj ms ∧ member? "expand_max_passes" ms = some (.float (.infinite negative))

/-- There is a number of passes unless an infinity is asked for. -/
theorem exists_passesOf_iff {v : Option Json} :
    (∃ r, passesOf v = .ok r) ↔ ∀ negative, v ≠ some (.float (.infinite negative)) := by
  cases v with
  | none => simp [passesOf]
  | some v =>
      have hinfinite : (∀ negative, some v ≠ some (.float (.infinite negative))) ↔
          Whole.ofJson v ≠ .infinite := by
        rw [Ne, Whole.ofJson_eq_infinite_iff]
        simp
      rw [hinfinite, passesOf]
      cases Whole.ofJson v <;> simp

/-- A number of passes that is of no use leaves the common one, with a warning. -/
theorem passesOf_of_unusable {v : Json} (h : Whole.ofJson v = .unusable) :
    passesOf (some v) = .ok (defaultMaxPasses, [.passesKept defaultMaxPasses]) := by
  simp only [passesOf, h]

/-- Of the names that have a value, each with its value, a name is found with its own. -/
theorem member?_filterMap_of_names (value : String → Option Json) (names : List String) (name : String) :
    member? name (names.filterMap fun k => (value k).map (.ofString k, ·)) =
      if name ∈ names then value name else none := by
  induction names with
  | nil => rfl
  | cons k names ih =>
      by_cases hk : name = k
      · subst hk
        cases hv : value name <;> simp [hv, ih]
      · cases hv : value k <;> simp [hv, ih, hk]

/-- A name that counts has the same value among the members that count. -/
theorem member?_knownMembers {name : String} (h : name ∈ keys) (ms : List (WideText × Json)) :
    member? name (knownMembers ms) = member? name ms := by
  rw [knownMembers, member?_filterMap_of_names, if_pos h]

/-! ### The settings -/

/-- What is found at the path of the settings is what they are made from. -/
theorem load_of_find {d : Disk} {path : String} {node : Node} (hpath : path ≠ "")
    (hnode : d.find (Path.ofString path) = .ok node) :
    load nesting d (some path) =
      match membersOfNode nesting (Path.ofString path).text node with
      | .ok (ms, warnings) => finish ms warnings
      | .error e => ⟨[], .error e⟩ := by
  have hempty : ¬ path.isEmpty = true := by simpa [String.isEmpty_iff] using hpath
  have hmembers :
      membersAt nesting d (some path) = membersOfNode nesting (Path.ofString path).text node := by
    rw [membersAt, if_neg hempty, members_of_find hnode]
  rw [← hmembers]
  rfl

/-- What is read from a value is what its members make. -/
theorem load_of_holds {d : Disk} {path : String} {node : Node} {v : Json} (hpath : path ≠ "")
    (hnode : d.find (Path.ofString path) = .ok node) (hv : Holds nesting node v) :
    load nesting d (some path) =
      finish (membersOfJson (Path.ofString path).text v).1
        (membersOfJson (Path.ofString path).text v).2 := by
  rw [load_of_find hpath hnode, membersOfNode_of_holds hv]

/-- Settings can be made from the members that count in a value unless that asks for an infinite number of
passes. -/
theorem exists_finish_iff {path : String} {v : Json} :
    (∃ s, (finish (membersOfJson path v).1 (membersOfJson path v).2).result = .ok s) ↔
      ¬ AsksForInfinity v := by
  have hmade : ∀ ms ws, (∃ s, (finish ms ws).result = .ok s) ↔
      ∃ r, passesOf (member? "expand_max_passes" ms) = .ok r := by
    intro ms ws
    rw [finish, ofMembers]
    cases passesOf (member? "expand_max_passes" ms) <;> simp [Except.map]
  rw [hmade, exists_passesOf_iff]
  by_cases hv : ∃ ms, v = .obj ms
  · obtain ⟨ms, rfl⟩ := hv
    rw [show (membersOfJson path (.obj ms)).1 = knownMembers ms from rfl,
      member?_knownMembers (by decide)]
    simp [AsksForInfinity]
  · rw [membersOfJson_of_not_obj (not_exists.mp hv)]
    simp only [AsksForInfinity, member?, List.lookup_nil]
    constructor
    · rintro - ⟨ms, negative, rfl, -⟩
      exact hv ⟨ms, rfl⟩
    · simp

/-- There are settings exactly when the text does not nest too deeply and asks for no infinite number of
passes. -/
theorem exists_load_iff {d : Disk} {path : String} {node : Node} (hpath : path ≠ "")
    (hnode : d.find (Path.ofString path) = .ok node) :
    (∃ s, (load nesting d (some path)).result = .ok s) ↔
      ¬ IsTooDeep nesting node ∧ ∀ v, Holds nesting node v → ¬ AsksForInfinity v := by
  by_cases hdeep : IsTooDeep nesting node
  · obtain ⟨e, he⟩ := membersOfNode_of_isTooDeep hdeep (Path.ofString path).text
    simp [load_of_find hpath hnode, he, hdeep]
  · by_cases hholds : ∃ v, Holds nesting node v
    · obtain ⟨v, hv⟩ := hholds
      rw [load_of_holds hpath hnode hv, exists_finish_iff]
      exact ⟨fun h => ⟨hdeep, fun w hw => hv.unique hw ▸ h⟩, fun h => h.2 v hv⟩
    · rw [load_of_find hpath hnode, membersOfNode_of_not_holds hdeep (not_exists.mp hholds)]
      simp [finish, ofMembers_nil, hdeep, not_exists.mp hholds]

/-! ### The session -/

/-- A session starts whenever there are settings. -/
theorem exists_start_iff {d : Disk} {path : Option String} :
    (∃ s, (Session.start nesting d path).result = .ok s) ↔
      ∃ settings, (load nesting d path).result = .ok settings := by
  rw [Session.start]
  cases (load nesting d path).result <;> simp [Except.map]

/-- Without members a session starts with the common settings. -/
theorem start_of_load_eq_finish_nil {d : Disk} {path : Option String} {warnings : List Warning}
    (h : load nesting d path = finish [] warnings) :
    Session.start nesting d path = ⟨warnings, .ok (Session.fresh Session.builtins default d)⟩ := by
  rw [Session.start, h, finish, ofMembers_nil]
  simp [Except.map]

/-- **What a settings file comes to**, for anything that can be found at its path. -/
theorem start_of_find {d : Disk} {path : String} {node : Node} (hpath : path ≠ "")
    (hnode : d.find (Path.ofString path) = .ok node) :
    -- only a text that nests too deeply is not read
    ((∃ r, members nesting d path = .ok r) ↔ ¬ IsTooDeep nesting node) ∧
    -- and only an infinite number of passes is turned down
    ((∃ s, (Session.start nesting d (some path)).result = .ok s) ↔
      ¬ IsTooDeep nesting node ∧ ∀ v, Holds nesting node v → ¬ AsksForInfinity v) ∧
    -- what holds no value is ignored with a warning
    (¬ IsTooDeep nesting node → (∀ v, ¬ Holds nesting node v) →
      members nesting d path = .ok ([], [.invalid (Path.ofString path).text]) ∧
      Session.start nesting d (some path) =
        ⟨[.invalid (Path.ofString path).text], .ok (Session.fresh Session.builtins default d)⟩) ∧
    -- and so is a value that is no object
    (∀ v, Holds nesting node v → (∀ ms, v ≠ .obj ms) →
      members nesting d path = .ok ([], [.notAnObject (Path.ofString path).text]) ∧
      Session.start nesting d (some path) =
        ⟨[.notAnObject (Path.ofString path).text], .ok (Session.fresh Session.builtins default d)⟩) ∧
    -- a number of passes that is of no use leaves the common one, with a warning
    (∀ ms v, Holds nesting node (.obj ms) → member? "expand_max_passes" ms = some v →
      Whole.ofJson v = .unusable →
      ∃ s, (Session.start nesting d (some path)).result = .ok s ∧ s.store.maxPasses = defaultMaxPasses ∧
        .passesKept defaultMaxPasses ∈ (Session.start nesting d (some path)).warnings) ∧
    -- and a session that has started makes at least one pass
    (∀ s, (Session.start nesting d (some path)).result = .ok s → 1 ≤ s.store.maxPasses) := by
  have hmembers : members nesting d path = _ := members_of_find hnode
  refine ⟨?_, exists_start_iff.trans (exists_load_iff hpath hnode), ?_, ?_, ?_,
    fun s hs => Session.one_le_maxPasses_of_start hs⟩
  · rw [hmembers]
    exact exists_membersOfNode_iff _
  · intro hdeep hholds
    have hload : load nesting d (some path) = _ := load_of_find hpath hnode
    rw [membersOfNode_of_not_holds hdeep hholds] at hmembers hload
    exact ⟨hmembers, start_of_load_eq_finish_nil hload⟩
  · intro v hv hobj
    have hvalue := load_of_holds hpath hnode hv
    rw [membersOfNode_of_holds hv] at hmembers
    rw [membersOfJson_of_not_obj hobj] at hmembers hvalue
    exact ⟨hmembers, start_of_load_eq_finish_nil hvalue⟩
  · intro ms v hv hpasses hunusable
    have hlookup : member? "expand_max_passes" (knownMembers ms) = some v := by
      rw [member?_knownMembers (by decide), hpasses]
    rw [Session.start, load_of_holds hpath hnode hv]
    simp [membersOfJson, finish, ofMembers, hlookup, passesOf_of_unusable hunusable, Except.map,
      Session.fresh]

/-- A disk on which the settings file holds a text. -/
def diskWith (text : String) : Disk :=
  Disk.empty.put (Path.ofString defaultPath) (.file (Utf8.encode text.toList))

/-- A list in place of the number of passes leaves the common number, if two containers may be open. -/
theorem start_of_list_for_passes :
    defaultPath ≠ "" ∧
      ∃ s, (Session.start 2 (diskWith "\x7b\"expand_max_passes\": []\x7d") (some defaultPath)).result =
          .ok s ∧ s.store.maxPasses = 10 ∧
        .passesKept 10 ∈
          (Session.start 2 (diskWith "\x7b\"expand_max_passes\": []\x7d") (some defaultPath)).warnings := by
  have hpath : defaultPath ≠ "" := by decide
  have hread : Json.read 2 "\x7b\"expand_max_passes\": []\x7d".toList =
      .ok (.obj [("expand_max_passes", .arr [])]) := by
    with_unfolding_all rfl
  have hholds : Holds 2 (.file (Utf8.encode "\x7b\"expand_max_passes\": []\x7d".toList))
      (.obj [("expand_max_passes", .arr [])]) := ⟨_, _, rfl, by decide +kernel, hread⟩
  obtain ⟨-, -, -, -, hunusable, -⟩ :=
    @start_of_find 2 (diskWith "\x7b\"expand_max_passes\": []\x7d") _ _ hpath rfl
  exact ⟨hpath, hunusable _ _ hholds rfl rfl⟩

/-- **An infinite number of passes** ends the start of the session. -/
theorem start_of_infinity_for_passes :
    (Session.start 1 (diskWith "\x7b\"expand_max_passes\": Infinity\x7d") (some defaultPath)).result.map
      (fun s => s.store.maxPasses) = .error (.passes .infinite) := by
  decide +kernel

end Settings

end LineShell
