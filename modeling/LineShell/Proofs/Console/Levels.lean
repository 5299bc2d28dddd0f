import LineShell.Proofs.Console.Transcript
import LineShell.Proofs.Settings.Types
import LineShell.Proofs.Text.Capitals

/-!
# The level of the log

A level can be asked for twice: by the environment, and if that asks for nothing, by the settings file
(`Console.IsGiven`). What is asked for is a text, and the level is the one that bears the text as its name, in
capitals; all other texts stand for the common level (`Level.IsNamed`), but for two, which are names of
something else.

The name in the settings file is put into capitals when it is read, and once more when the level is set. This
does not change the level, since the names of levels are written in ASCII (`Level.ofName_upper`).

**Main statement** (`Console.level_of_given`): the console starts exactly if the text that is given is not one
of the two, with the level that is named by it.
-/

namespace LineShell

/-! ### Names -/

namespace Level

/-- The names that stand for a level, or for something else than a level. -/
def reservedNames : List String := names.map Prod.fst ++ ["BASIC_FORMAT", "_STYLES"]

/-- What is no reserved name stands for the common level. -/
theorem ofCapitals_of_not_mem_reservedNames {name : String} (h : name ∉ reservedNames) :
    ofCapitals name = .ok common := by
  simp only [reservedNames, List.mem_append, List.mem_cons, List.not_mem_nil, or_false, not_or] at h
  obtain ⟨hnames, hlayout, hlayouts⟩ := h
  refine ofCapitals_of_not_mem (List.lookup_eq_none_iff.mpr fun p hp => ?_) hlayout hlayouts
  exact bne_iff_ne.mpr fun hname => hnames (hname ▸ List.mem_map_of_mem hp)

/-- **Capitals stand for what they stand for in capitals.** -/
theorem ofCapitals_upper_upper (name : String) :
    ofCapitals (Text.upper (Text.upper name)) = ofCapitals (Text.upper name) := by
  have hcapitals : ∀ t ∈ reservedNames, Text.upper t = t := by decide
  have hascii : (reservedNames.all fun t => t.toList.all fun c => decide (IsAscii c)) = true := by
    decide
  simp only [List.all_eq_true, decide_eq_true_eq] at hascii
  by_cases hname : Text.upper name ∈ reservedNames
  · rw [hcapitals _ hname]
  · have hupper : Text.upper (Text.upper name) ∉ reservedNames := by
      intro hmem
      have hsame := Text.upper_eq_of_upper_upper_eq (hascii _ hmem) rfl
      rw [← hsame] at hmem
      exact hname hmem
    rw [ofCapitals_of_not_mem_reservedNames hupper, ofCapitals_of_not_mem_reservedNames hname]

/-- The level of a text without surrogates. -/
theorem ofName_ofString (name : String) : ofName name = ofCapitals (Text.upper name) := by
  rw [ofName, WideText.upper_ofString, WideText.toString?_ofString]

/-- A text with a surrogate in it stands for the common level. -/
theorem ofName_of_toString?_eq_none {name : WideText} (h : name.toString? = none) :
    ofName name = .ok common := by
  rw [ofName, WideText.toString?_upper_eq_none h]

/-- **A name in capitals stands for what the name stands for.** -/
theorem ofName_upper (name : WideText) : ofName name.upper = ofName name := by
  cases h : name.toString? with
  | none =>
      rw [ofName_of_toString?_eq_none (WideText.toString?_upper_eq_none h), ofName_of_toString?_eq_none h]
  | some text =>
      rw [← WideText.ofString_of_toString? h, WideText.upper_ofString, ofName_ofString, ofName_ofString,
        ofCapitals_upper_upper]

/-- The levels with their names as wide texts. -/
def wideNames : List (WideText × Nat) := names.map fun p => (.ofString p.1, p.2)

/-- Whether a level is the one that a text names: the level that bears the text in capitals as its name, or
the common one if there is no such level. -/
def IsNamed (name : WideText) (n : Nat) : Prop :=
  (name.upper, n) ∈ wideNames ∨ (∀ m, (name.upper, m) ∉ wideNames) ∧ n = common

theorem mem_wideNames_iff {name : String} {n : Nat} :
    (WideText.ofString name, n) ∈ wideNames ↔ (name, n) ∈ names := by
  rw [wideNames, List.mem_map]
  constructor
  · rintro ⟨⟨k, m⟩, hmem, heq⟩
    obtain ⟨hname, rfl⟩ := Prod.mk.inj heq
    rwa [← WideText.ofString_inj.mp hname]
  · exact fun hmem => ⟨_, hmem, rfl⟩

/-- A name is looked up among those of the levels. -/
theorem lookup_names_eq_some_iff {name : String} {n : Nat} :
    names.lookup name = some n ↔ (name, n) ∈ names := by
  have hdistinct : ∀ p ∈ names, names.lookup p.1 = some p.2 := by decide
  constructor
  · intro h
    obtain ⟨before, behind, htable, -⟩ := List.lookup_eq_some_iff.mp h
    rw [htable]
    simp
  · exact hdistinct (name, n)

/-- What is neither refused nor the name of a level is not reserved. -/
theorem not_mem_reservedNames {name : String} (hrefused : WideText.ofString name ∉ refusedNames)
    (hnames : ∀ n, (name, n) ∉ names) : name ∉ reservedNames := by
  intro hmem
  rcases List.mem_append.mp hmem with h | h
  · obtain ⟨⟨k, n⟩, hp, rfl⟩ := List.mem_map.mp h
    exact hnames n hp
  · simp only [refusedNames, List.mem_cons, List.not_mem_nil, or_false, WideText.ofString_inj] at hrefused h
    exact hrefused h

/-- What capitals stand for. -/
theorem ofCapitals_eq_ok_iff {name : String} {n : Nat} :
    ofCapitals name = .ok n ↔ WideText.ofString name ∉ refusedNames ∧
      ((name, n) ∈ names ∨ (∀ m, (name, m) ∉ names) ∧ n = common) := by
  constructor
  · intro h
    have hrefused := exists_ofCapitals_iff.mp ⟨n, h⟩
    refine ⟨hrefused, ?_⟩
    by_cases hnames : ∃ m, (name, m) ∈ names
    · obtain ⟨m, hm⟩ := hnames
      rw [ofCapitals, lookup_names_eq_some_iff.mpr hm] at h
      cases h
      exact .inl hm
    · rw [not_exists] at hnames
      rw [ofCapitals_of_not_mem_reservedNames (not_mem_reservedNames hrefused hnames)] at h
      cases h
      exact .inr ⟨hnames, rfl⟩
  · rintro ⟨hrefused, hlevel | ⟨hnames, rfl⟩⟩
    · rw [ofCapitals, lookup_names_eq_some_iff.mpr hlevel]
    · exact ofCapitals_of_not_mem_reservedNames (not_mem_reservedNames hrefused hnames)

/-- **What a name stands for.** -/
theorem ofName_eq_ok_iff {name : WideText} {n : Nat} :
    ofName name = .ok n ↔ name.upper ∉ refusedNames ∧ IsNamed name n := by
  cases h : name.upper.toString? with
  | some capitals =>
      rw [ofName, h, IsNamed, ← WideText.ofString_of_toString? h]
      simp only [mem_wideNames_iff]
      exact ofCapitals_eq_ok_iff
  | none =>
      have hsome : ∀ p ∈ wideNames, p.1.toString? ≠ none := by decide
      have hnames : ∀ m, (name.upper, m) ∉ wideNames := fun m hmem => hsome _ hmem h
      have hcommon : ofName name = .ok common := by rw [ofName, h]
      have hrefused : name.upper ∉ refusedNames := exists_ofName_iff.mp ⟨common, hcommon⟩
      rw [hcommon, Except.ok.injEq, and_iff_right hrefused]
      constructor
      · rintro rfl
        exact .inr ⟨hnames, rfl⟩
      · rintro (hmem | ⟨-, rfl⟩)
        · exact absurd hmem (hnames n)
        · rfl

end Level

/-! ### What is given -/

namespace Settings

/-- Whether a text is given as the level in the settings file. -/
def GivesLevel (nesting : Nat) (disk : Disk) (name : WideText) : Prop :=
  ∃ node ms, disk.find (Path.ofString defaultPath) = .ok node ∧ Holds nesting node (.obj ms) ∧
    member? "log_level" ms = some (.str name)

/-- What cannot be found sets nothing. -/
theorem eq_nil_of_members_of_find_eq_error {nesting : Nat} {d : Disk} {path : String} {f : Disk.Fault}
    (hfind : d.find (Path.ofString path) = .error f) {ms : List (WideText × Json)} {ws : List Warning}
    (h : members nesting d path = .ok (ms, ws)) : ms = [] := by
  have hnode : d.hasNode (Path.ofString path) = if f.isAbsence then .ok false else .error f := by
    rw [Disk.hasNode, Disk.test, hfind]
  simp only [members, hnode] at h
  split at h
  · cases h
    rfl
  · cases h

/-- A member that counts is one of an object that is found at the path. -/
theorem exists_holds_of_members {nesting : Nat} {d : Disk} {path k : String} {ms : List (WideText × Json)}
    {ws : List Warning} {v : Json} (h : members nesting d path = .ok (ms, ws)) (hk : member? k ms = some v) :
    ∃ node raw, d.find (Path.ofString path) = .ok node ∧ Holds nesting node (.obj raw) ∧
      member? k raw = some v := by
  cases hfind : d.find (Path.ofString path) with
  | error f =>
      rw [eq_nil_of_members_of_find_eq_error hfind h] at hk
      cases hk
  | ok node =>
      rw [members_of_find hfind] at h
      by_cases hholds : ∃ w, Holds nesting node w
      · obtain ⟨w, hw⟩ := hholds
        rw [membersOfNode_of_holds hw, Except.ok.injEq] at h
        by_cases hobj : ∃ raw, w = .obj raw
        · obtain ⟨raw, rfl⟩ := hobj
          obtain rfl : knownMembers raw = ms := congrArg Prod.fst h
          rw [knownMembers, member?_filterMap_of_names] at hk
          split at hk
          · exact ⟨node, raw, rfl, hw, hk⟩
          · cases hk
        · rw [membersOfJson_of_not_obj (not_exists.mp hobj)] at h
          obtain rfl : [] = ms := congrArg Prod.fst h
          cases hk
      · have hdeep : ¬ IsTooDeep nesting node := (exists_membersOfNode_iff _).mp ⟨_, h⟩
        rw [membersOfNode_of_not_holds hdeep (not_exists.mp hholds)] at h
        cases h
        cases hk

/-- The level of settings is the text of their member for it, in capitals. -/
theorem logLevel_of_ofMembers {ms : List (WideText × Json)} {s : Settings} {ws : List Warning}
    (h : ofMembers ms = .ok (s, ws)) :
    s.logLevel = ((member? "log_level" ms).bind textOf?).map WideText.upper := by
  rw [ofMembers] at h
  cases hpasses : passesOf (member? "expand_max_passes" ms) with
  | error e => rw [hpasses] at h; cases h
  | ok p => rw [hpasses] at h; cases h; rfl

/-- The settings of a session are made from the members that count in the settings file. -/
theorem exists_ofMembers_of_start {nesting : Nat} {disk : Disk} {s : Session}
    (hs : (Session.start nesting disk (some defaultPath)).result = .ok s) :
    ∃ ms ws more, members nesting disk defaultPath = .ok (ms, ws) ∧ ofMembers ms = .ok (s.settings, more) := by
  obtain ⟨settings, hload, rfl⟩ := Session.exists_eq_fresh_of_start hs
  have hpath : ¬ defaultPath.isEmpty = true := by decide
  rw [load, membersAt, if_neg hpath] at hload
  cases hmembers : members nesting disk defaultPath with
  | error e => rw [hmembers] at hload; cases hload
  | ok p =>
      obtain ⟨ms, ws⟩ := p
      simp only [hmembers, finish] at hload
      cases hmade : ofMembers ms with
      | error e => rw [hmade] at hload; cases hload
      | ok q =>
          rw [hmade] at hload
          cases hload
          exact ⟨ms, ws, q.2, rfl, hmade⟩

/-- **The level that a session starts with** is the one that is given in the settings file, in capitals. -/
theorem logLevel_eq_some_iff {nesting : Nat} {disk : Disk} {s : Session}
    (hs : (Session.start nesting disk (some defaultPath)).result = .ok s) {capitals : WideText} :
    s.settings.logLevel = some capitals ↔ ∃ name, GivesLevel nesting disk name ∧ name.upper = capitals := by
  obtain ⟨ms, ws, more, hmembers, hmade⟩ := exists_ofMembers_of_start hs
  have hlevel := logLevel_of_ofMembers hmade
  constructor
  · intro h
    rw [hlevel, Option.map_eq_some_iff] at h
    obtain ⟨name, hname, hcapitals⟩ := h
    obtain ⟨v, hv, htext⟩ := Option.bind_eq_some_iff.mp hname
    obtain rfl : v = .str name := by
      cases v with
      | str t => cases htext; rfl
      | _ => cases htext
    obtain ⟨node, raw, hnode, hholds, hraw⟩ := exists_holds_of_members hmembers hv
    exact ⟨name, ⟨node, raw, hnode, hholds, hraw⟩, hcapitals⟩
  · rintro ⟨name, ⟨node, raw, hnode, hholds, hraw⟩, rfl⟩
    rw [members_of_find hnode, membersOfNode_of_holds hholds, Except.ok.injEq] at hmembers
    obtain rfl : knownMembers raw = ms := congrArg Prod.fst hmembers
    rw [hlevel, member?_knownMembers (by decide), hraw]
    rfl

end Settings

namespace Console

/-- **What is given as the level** of a console: by the environment, unless that gives nothing or the empty
text, and by the settings file otherwise. -/
inductive IsGiven (w : Surroundings) (disk : Disk) (name : WideText) : Prop where
  /-- The environment asks for a level. -/
  | environment (hlevel : w.level = some name) (hne : name ≠ "")
  /-- The environment asks for none, and the settings file does. -/
  | settings (hlevel : ∀ t, w.level = some t → t = "") (hgives : Settings.GivesLevel w.nesting disk name)

section Given

variable {w : Surroundings} {disk : Disk} {s : Session}

/-- Where the environment asks for no level, the one of the settings is asked for. -/
theorem requested_of_environment_empty (hlevel : ∀ t, w.level = some t → t = "")
    (settings : Option WideText) : Level.requested w.level settings = settings.getD "WARNING" := by
  cases h : w.level with
  | none => rfl
  | some t => rw [hlevel t h]; rfl

/-- **The level is that of the text that is given.** -/
theorem choose_of_isGiven (hs : (Session.start w.nesting disk (some Settings.defaultPath)).result = .ok s)
    {name : WideText} (h : IsGiven w disk name) :
    Level.choose w.level s.settings.logLevel = Level.ofName name := by
  rw [Level.choose_eq_ofName]
  cases h with
  | environment hlevel hne =>
      have hnonempty : ¬ name.isEmpty = true := by simpa [WideText.isEmpty_iff] using hne
      simp only [hlevel, Level.requested, if_neg hnonempty]
  | settings hlevel hgives =>
      have hsettings := (Settings.logLevel_eq_some_iff hs).mpr ⟨name, hgives, rfl⟩
      rw [requested_of_environment_empty hlevel, hsettings, Option.getD_some, Level.ofName_upper]

/-- Where no text is given, the level is the common one. -/
theorem choose_of_not_isGiven (hs : (Session.start w.nesting disk (some Settings.defaultPath)).result = .ok s)
    (h : ∀ name, ¬ IsGiven w disk name) :
    Level.choose w.level s.settings.logLevel = .ok Level.common := by
  have hlevel : ∀ t, w.level = some t → t = "" :=
    fun t ht => Decidable.byContradiction fun hne => h t (.environment ht hne)
  have hsettings : s.settings.logLevel = none := by
    cases hlog : s.settings.logLevel with
    | none => rfl
    | some capitals =>
        obtain ⟨name, hgives, -⟩ := (Settings.logLevel_eq_some_iff hs).mp hlog
        exact absurd (.settings hlevel hgives) (h name)
  rw [Level.choose_eq_ofName, requested_of_environment_empty hlevel, hsettings]
  rfl

/-- **Which level the log gets.** Given that there are settings, a console that is given a text for the level
starts exactly if the text in capitals is not one of two names of something else. Its level is then the one
that bears the text in capitals as its name, or the common one if there is no such level; the latter is also
the one of a console that is given no text. -/
theorem level_of_given (hs : (Session.start w.nesting disk (some Settings.defaultPath)).result = .ok s) :
    (∀ name, IsGiven w disk name →
      ((∃ effects c, start w disk = (effects, .ok c)) ↔ name.upper ∉ Level.refusedNames) ∧
      ∀ n, Level.choose w.level s.settings.logLevel = .ok n ↔
        name.upper ∉ Level.refusedNames ∧ Level.IsNamed name n) ∧
    ((∀ name, ¬ IsGiven w disk name) →
      Level.choose w.level s.settings.logLevel = .ok Level.common) ∧
    ∀ n, Level.choose w.level s.settings.logLevel = .ok n →
      ∃ effects, start w disk = (effects, .ok ⟨s, decide (n ≤ 10)⟩) := by
  have hstarts : ∀ n, Level.choose w.level s.settings.logLevel = .ok n →
      ∃ effects, start w disk = (effects, .ok ⟨s, decide (n ≤ 10)⟩) :=
    fun n hn => ⟨_, start_eq_ok_iff.mpr ⟨s, n, hs, hn, rfl, rfl⟩⟩
  refine ⟨fun name hgiven => ?_, choose_of_not_isGiven hs, hstarts⟩
  have hchoose := choose_of_isGiven hs hgiven
  refine ⟨?_, fun n => by rw [hchoose, Level.ofName_eq_ok_iff]⟩
  rw [← Level.exists_ofName_iff, ← hchoose]
  constructor
  · rintro ⟨effects, c, hstart⟩
    obtain ⟨t, n, ht, hn, -, -⟩ := start_eq_ok_iff.mp hstart
    obtain rfl : s = t := Except.ok.inj (hs.symm.trans ht)
    exact ⟨n, hn⟩
  · rintro ⟨n, hn⟩
    obtain ⟨effects, hstart⟩ := hstarts n hn
    exact ⟨effects, _, hstart⟩

end Given

/-- A disk on which the settings file asks for a level by the name of the table of layouts. -/
def diskWithLayouts : Disk := Settings.diskWith "\x7b\"log_level\": \"_styles\"\x7d"

/-- The session that starts on this disk. -/
def sessionWithLayouts : Session :=
  Session.fresh Session.builtins { Settings.default with logLevel := some "_STYLES" } diskWithLayouts

/-- What the environment asks for goes before what the settings file asks for: with the one a console starts,
with the other it would not. -/
theorem level_of_given_debug :
    (Session.start 1 diskWithLayouts (some Settings.defaultPath)).result = .ok sessionWithLayouts ∧
      IsGiven ⟨Session.emptyHost, "", some "debug", 1⟩ diskWithLayouts "debug" ∧
      (∃ effects, start ⟨Session.emptyHost, "", some "debug", 1⟩ diskWithLayouts =
        (effects, .ok ⟨sessionWithLayouts, true⟩)) ∧
      IsGiven ⟨Session.emptyHost, "", none, 1⟩ diskWithLayouts "_styles" ∧
      ¬ ∃ effects c, start ⟨Session.emptyHost, "", none, 1⟩ diskWithLayouts = (effects, .ok c) := by
  have hpath : Settings.defaultPath ≠ "" := by decide
  have hread : Json.read 1 "\x7b\"log_level\": \"_styles\"\x7d".toList =
      .ok (.obj [("log_level", .str "_styles")]) := by
    with_unfolding_all rfl
  have hholds : Settings.Holds 1 (.file (Utf8.encode "\x7b\"log_level\": \"_styles\"\x7d".toList))
      (.obj [("log_level", .str "_styles")]) :=
    ⟨_, _, rfl, by decide +kernel, hread⟩
  have hs : (Session.start 1 diskWithLayouts (some Settings.defaultPath)).result =
      .ok sessionWithLayouts := by
    rw [Settings.result_start_of_object hpath rfl hholds]
    rfl
  let w : Surroundings := ⟨Session.emptyHost, "", some "debug", 1⟩
  let w' : Surroundings := ⟨Session.emptyHost, "", none, 1⟩
  have hdebug : IsGiven w diskWithLayouts "debug" := .environment rfl (by decide)
  have hlayouts : IsGiven w' diskWithLayouts "_styles" := .settings nofun ⟨_, _, rfl, hholds, rfl⟩
  obtain ⟨hgiven, -, hstarts⟩ := level_of_given (w := w) hs
  have hlevel := (hgiven _ hdebug).2 10
  have hstart := hstarts 10 (hlevel.mpr ⟨by decide +kernel, .inl (by decide +kernel)⟩)
  refine ⟨hs, hdebug, hstart, hlayouts, ?_⟩
  rw [((level_of_given (w := w') hs).1 _ hlayouts).1]
  decide +kernel

/-- **A name of something else than a level** keeps the console from starting, in whatever case the environment
gives it, and no greeting is written. -/
theorem start_of_layout_in_environment :
    (start ⟨Session.emptyHost, "", some "BASIC_FORMAT", 0⟩ .empty).1 = [] ∧
      (start ⟨Session.emptyHost, "", some "BASIC_FORMAT", 0⟩ .empty).2.map (fun _ => ()) =
        .error (.level .layout) ∧
      (start ⟨Session.emptyHost, "", some "_styles", 0⟩ .empty).1 = [] ∧
      (start ⟨Session.emptyHost, "", some "_styles", 0⟩ .empty).2.map (fun _ => ()) =
        .error (.level .layouts) := by
  decide +kernel

end Console

end LineShell
