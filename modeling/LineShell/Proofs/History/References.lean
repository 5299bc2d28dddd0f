import LineShell.Calc.Spelling
import LineShell.Proofs.Session.Containment

/-!
# References

What a line with an exclamation mark in front refers to is said without looking anything up: the last
entry, the entry at a position, or the latest entry with a beginning (`History.Refers`). A line stands for
the entry that it refers to, and for itself if it refers to none (`History.StandsFor`).

A line is expanded to what it stands for, unless its position is written with more digits than are
converted, be they all zeros in front (`History.expand_cases`). Then the expansion ends with the refused
conversion, and so does the line: nothing is echoed, recorded or executed
(`Session.run_of_hasLongPosition`).

**Main statement** (`History.expand_resolves_iff`): this for every log and every line, and that in an
orderly world a line comes to an end of its own exactly when its position, if it has one, can be
converted.
-/

namespace LineShell

namespace History

open Calc (IsNumeral)

/-! ### What a line stands for -/

/-- What the text behind an exclamation mark refers to. -/
inductive Refers (h : History) : List Char → String → Prop where
  /-- A second mark refers to the last entry. -/
  | last {before : List String} {e : String} (entries : h.entries = before ++ [e]) :
      Refers h ['!'] e
  /-- A numeral refers to the entry at the position that it writes, counted from one. -/
  | position {ds : List Char} {n : Nat} {e : String} (numeral : IsNumeral ds)
      (value : ofDigits ds = n + 1) (entry : h.entries[n]? = some e) : Refers h ds e
  /-- Any other text refers to the latest entry that begins with it. -/
  | start {cs : List Char} {before after : List String} {e : String} (notMark : cs ≠ ['!'])
      (notNumeral : ¬ IsNumeral cs) (entries : h.entries = before ++ e :: after)
      (begins : cs <+: e.toList) (latest : ∀ later ∈ after, ¬ cs <+: later.toList) : Refers h cs e

/-- What a line stands for. -/
inductive StandsFor (h : History) : String → String → Prop where
  /-- Without an exclamation mark in front it stands for itself. -/
  | plain {line : String} (noMark : ∀ cs, line.toList ≠ '!' :: cs) : StandsFor h line line
  /-- With one it stands for the entry that it refers to. -/
  | entry {line e : String} {cs : List Char} (mark : line.toList = '!' :: cs)
      (refers : h.Refers cs e) : StandsFor h line e
  /-- If there is no such entry it stands for itself. -/
  | unmatched {line : String} {cs : List Char} (mark : line.toList = '!' :: cs)
      (none : ∀ e, ¬ h.Refers cs e) : StandsFor h line line

/-- Whether a line refers to a position that is written with more digits than are converted. -/
def HasLongPosition (line : String) : Prop :=
  ∃ ds, line.toList = '!' :: ds ∧ IsNumeral ds ∧ Numeral.maxDigits < ds.length

/-! ### Looking entries up -/

/-- The latest entry with a beginning has none behind it. -/
theorem latestStartingWith?_eq_some_iff {h : History} {cs : List Char} {e : String} :
    h.latestStartingWith? (String.ofList cs) = some e ↔
      ∃ before after, h.entries = before ++ e :: after ∧ cs <+: e.toList ∧
        ∀ later ∈ after, ¬ cs <+: later.toList := by
  simp only [latestStartingWith?, List.find?_eq_some_iff_append, String.toList_ofList,
    List.isPrefixOf_iff_prefix, Bool.not_eq_true', Bool.eq_false_iff, ne_eq]
  constructor
  · rintro ⟨hbegins, after, before, hentries, hlatest⟩
    refine ⟨before.reverse, after.reverse, ?_, hbegins, fun later hlater => ?_⟩
    · rw [← List.reverse_reverse h.entries, hentries]
      simp
    · exact hlatest later (List.mem_reverse.mp hlater)
  · rintro ⟨before, after, hentries, hbegins, hlatest⟩
    refine ⟨hbegins, after.reverse, before.reverse, by simp [hentries], fun later hlater => ?_⟩
    exact hlatest later (List.mem_reverse.mp hlater)

/-- An entry at a position has one entry fewer before it. -/
theorem entry?_eq_some_iff {h : History} {p : Nat} {e : String} :
    h.entry? p = some e ↔ ∃ n, p = n + 1 ∧ h.entries[n]? = some e := by
  cases p with
  | zero => simp [ entry?]
  | succ p => simp [entry?_eq_getElem?]

/-! ### The kinds of references -/

theorem not_isNumeral_mark : ¬ IsNumeral ['!'] := fun h =>
  absurd (h.2 '!' List.mem_cons_self) (by decide)

theorem isNumeral_iff_all {cs : List Char} :
    IsNumeral cs ↔ (!cs.isEmpty && cs.all isAsciiDigit) = true := by
  simp [IsNumeral]

variable {h : History} {cs : List Char}

theorem Reference.ofChars_of_isNumeral (hcs : IsNumeral cs) : Reference.ofChars cs = .position cs := by
  have hmark : cs ≠ ['!'] := fun h => not_isNumeral_mark (h ▸ hcs)
  rw [Reference.ofChars, if_neg hmark, if_pos (isNumeral_iff_all.mp hcs)]

theorem refers_mark_iff {e : String} : h.Refers ['!'] e ↔ h.last? = some e := by
  rw [last?, List.getLast?_eq_some_iff]
  constructor
  · intro hrefers
    cases hrefers with
    | last entries => exact ⟨_, entries⟩
    | position numeral _ _ => exact absurd numeral not_isNumeral_mark
    | start notMark _ _ _ _ => exact absurd rfl notMark
  · rintro ⟨before, entries⟩
    exact .last entries

theorem refers_iff_of_isNumeral (hcs : IsNumeral cs) {e : String} :
    h.Refers cs e ↔ h.entry? (ofDigits cs) = some e := by
  rw [entry?_eq_some_iff]
  constructor
  · intro hrefers
    cases hrefers with
    | last _ => exact absurd hcs not_isNumeral_mark
    | position _ value entry => exact ⟨_, value, entry⟩
    | start _ notNumeral _ _ _ => exact absurd hcs notNumeral
  · rintro ⟨n, value, entry⟩
    exact .position hcs value entry

theorem refers_iff_of_start (hmark : cs ≠ ['!']) (hcs : ¬ IsNumeral cs) {e : String} :
    h.Refers cs e ↔ h.latestStartingWith? (String.ofList cs) = some e := by
  rw [latestStartingWith?_eq_some_iff]
  constructor
  · intro hrefers
    cases hrefers with
    | last _ => exact absurd rfl hmark
    | position numeral _ _ => exact absurd numeral hcs
    | start _ _ entries begins latest => exact ⟨_, _, entries, begins, latest⟩
  · rintro ⟨before, after, entries, begins, latest⟩
    exact .start hmark hcs entries begins latest

/-- **What a reference finds** is what it refers to, unless it is a position with more digits than are
converted. -/
theorem resolve_ofChars_cases (h : History) (cs : List Char) :
    (IsNumeral cs ∧ Numeral.maxDigits < cs.length ∧
        h.resolve (.ofChars cs) = .error (.reading cs.length)) ∨
      (¬ (IsNumeral cs ∧ Numeral.maxDigits < cs.length) ∧
        ∃ found, h.resolve (.ofChars cs) = .ok found ∧ ∀ e, found = some e ↔ h.Refers cs e) := by
  by_cases hmark : cs = ['!']
  · subst hmark
    exact .inr ⟨fun hlong => not_isNumeral_mark hlong.1, _, rfl, fun e => refers_mark_iff.symm⟩
  by_cases hcs : IsNumeral cs
  · rw [Reference.ofChars_of_isNumeral hcs, resolve]
    by_cases hlong : Numeral.maxDigits < cs.length
    · rw [Numeral.read, if_pos hlong]
      exact .inl ⟨hcs, hlong, rfl⟩
    · rw [Numeral.read_eq_ok (Nat.le_of_not_lt hlong)]
      exact .inr ⟨fun h => hlong h.2, _, rfl, fun e => (refers_iff_of_isNumeral hcs).symm⟩
  · have hofChars : Reference.ofChars cs = .start cs := by
      rw [Reference.ofChars, if_neg hmark, if_neg (mt isNumeral_iff_all.mpr hcs)]
    rw [hofChars]
    exact .inr ⟨fun h => hcs h.1, _, rfl, fun e => (refers_iff_of_start hmark hcs).symm⟩

/-! ### Expansion -/

theorem expand_of_noMark {line : String} (noMark : ∀ cs, line.toList ≠ '!' :: cs) :
    h.expand line = .ok line := by
  unfold expand
  split
  · next cs hline => exact absurd hline (noMark cs)
  · rfl

theorem expand_of_mark {line : String} (mark : line.toList = '!' :: cs) :
    h.expand line = (h.resolve (.ofChars cs)).map (·.getD line) := by
  rw [expand, mark]
  rfl

/-- Behind an exclamation mark a line stands for what is found, or else for itself. -/
theorem standsFor_mark_iff {line t : String} (mark : line.toList = '!' :: cs) {found : Option String}
    (hfound : ∀ e, found = some e ↔ h.Refers cs e) : h.StandsFor line t ↔ t = found.getD line := by
  constructor
  · intro hstands
    cases hstands with
    | plain noMark => exact absurd mark (noMark cs)
    | entry mark' refers =>
        obtain rfl : cs = _ := List.tail_eq_of_cons_eq (mark.symm.trans mark')
        rw [(hfound t).mpr refers, Option.getD_some]
    | unmatched mark' none =>
        obtain rfl : cs = _ := List.tail_eq_of_cons_eq (mark.symm.trans mark')
        cases found with
        | none => rfl
        | some e => exact absurd ((hfound e).mp rfl) (none e)
  · rintro rfl
    cases found with
    | none => exact .unmatched mark fun e he => by simpa using (hfound e).mpr he
    | some e => exact .entry mark ((hfound e).mp rfl)

/-- **What a line is expanded to** is what it stands for, and that alone, unless its position is too
long. -/
theorem expand_cases (h : History) (line : String) :
    (HasLongPosition line ∧ h.expand line = .error (.reading (line.length - 1))) ∨
      (¬ HasLongPosition line ∧ ∃ r, h.expand line = .ok r ∧ ∀ t, h.StandsFor line t ↔ t = r) := by
  by_cases hmark : ∃ cs, line.toList = '!' :: cs
  · obtain ⟨cs, mark⟩ := hmark
    have hlong_iff : HasLongPosition line ↔ IsNumeral cs ∧ Numeral.maxDigits < cs.length := by
      constructor
      · rintro ⟨ds, mark', numeral, hlong⟩
        obtain rfl : cs = ds := List.tail_eq_of_cons_eq (mark.symm.trans mark')
        exact ⟨numeral, hlong⟩
      · exact fun hcs => ⟨cs, mark, hcs⟩
    rw [hlong_iff, expand_of_mark mark]
    rcases resolve_ofChars_cases h cs with ⟨numeral, hlong, hresolve⟩ | ⟨hshort, found, hresolve, hfound⟩
    · have hlength : line.length - 1 = cs.length := by
        rw [← String.length_toList, mark, List.length_cons, Nat.add_sub_cancel]
      rw [hresolve, hlength]
      exact .inl ⟨⟨numeral, hlong⟩, rfl⟩
    · rw [hresolve]
      exact .inr ⟨hshort, _, rfl, fun t => standsFor_mark_iff mark hfound⟩
  · have noMark : ∀ cs, line.toList ≠ '!' :: cs := fun cs mark => hmark ⟨cs, mark⟩
    refine .inr ⟨fun ⟨ds, mark, _⟩ => noMark ds mark, line, expand_of_noMark noMark, fun t => ?_⟩
    constructor
    · intro hstands
      cases hstands with
      | plain _ => rfl
      | entry mark _ => exact absurd mark (noMark _)
      | unmatched mark _ => rfl
    · rintro rfl
      exact .plain noMark

end History

namespace Session

open History (HasLongPosition)

/-! ### Lines -/

/-- A line that refers to a position is not blank. -/
theorem isBlankText_of_hasLongPosition {line : String} (h : HasLongPosition line) :
    Text.isBlankText line = false := by
  obtain ⟨ds, mark, -⟩ := h
  have hmark : isBlank '!' = false := by decide
  simp [Text.isBlankText, mark, hmark]

/-- A line whose position is too long comes to nothing but a fault. -/
theorem run_of_hasLongPosition (s : Session) (host : Host) {line : String} (h : HasLongPosition line) :
    s.run host line = ⟨.error (.numeral (.reading (line.length - 1))), s.store, []⟩ := by
  rcases s.store.history.expand_cases line with ⟨-, herror⟩ | ⟨hshort, -⟩
  · exact run_of_expand_error host (isBlankText_of_hasLongPosition h) herror
  · exact absurd h hshort

section

variable {c : Context} {cs : Commands} (hhost : c.host.IsOrderly)
  (hcs : ∀ p ∈ cs, p.2.FaultsOnly Fault.IsOrdinary c)
include hhost hcs

/-- In an orderly world segments come to an end of their own, one after another. -/
theorem exists_result_executeAll (segments : List Segment) (b : Bool) (s : Store) :
    ∃ b', ((executeAll cs b segments).run c s).result = .ok b' := by
  induction segments generalizing b s with
  | nil => exact ⟨b, rfl⟩
  | cons segment rest ih =>
      rw [executeAll]
      split
      · obtain ⟨b', hresult, -⟩ := isReported_execute hhost hcs s segment.text
        rw [Act.run_bind]
        rcases hrun : (execute cs segment.text).run c s with ⟨r, t, es⟩
        rw [hrun] at hresult
        cases hresult
        exact ih b' t
      · exact ⟨b, rfl⟩

end

/-- **In an orderly world a line comes to an end of its own** exactly when it does not refer to a position
that is too long. -/
theorem exists_result_run_iff {s : Session} {host : Host} (hhost : host.IsOrderly)
    (hcs : ∀ p ∈ s.commands, p.2.FaultsOnly Fault.IsOrdinary (s.context host)) (line : String) :
    (∃ b, (s.run host line).result = .ok b) ↔ ¬ HasLongPosition line := by
  constructor
  · rintro ⟨b, hb⟩ hlong
    rw [run_of_hasLongPosition s host hlong] at hb
    cases hb
  · intro hshort
    cases hblank : Text.isBlankText line with
    | true => exact ⟨true, by rw [run_of_isBlankText s host hblank]⟩
    | false =>
        rcases s.store.history.expand_cases line with ⟨hlong, -⟩ | ⟨-, r, hr, -⟩
        · exact absurd hlong hshort
        · rw [run_of_expand host hblank hr]
          have horderly : (s.context host).host.IsOrderly := hhost
          obtain ⟨b, hb⟩ := exists_result_executeAll horderly hcs (Segment.ofLine r) true
            { s.store with history := s.store.history.add r }
          refine ⟨b, ?_⟩
          rw [Outcome.behind, segmentsOf, hb]

end Session

namespace History

open Calc (IsNumeral)

/-- **What references come to.** A line is expanded exactly when it does not refer to a position that is
written with more digits than are converted, and then to what it stands for: itself without an
exclamation mark in front, and otherwise the entry that it refers to, or itself if there is none. If its
position is too long, the refused conversion is all that comes of it, and a session that is given the line
is left as it was. Any other line comes to an end of its own in every session with commands that are not
interrupted, in an orderly world. -/
theorem expand_resolves_iff (h : History) (line : String) :
    (∀ r, h.expand line = .ok r ↔ ¬ HasLongPosition line ∧ h.StandsFor line r) ∧
    (¬ HasLongPosition line → ∃ r, h.expand line = .ok r) ∧
    (HasLongPosition line → h.expand line = .error (.reading (line.length - 1)) ∧
      ∀ (s : Session) (host : Host),
        s.run host line = ⟨.error (.numeral (.reading (line.length - 1))), s.store, []⟩) ∧
    ∀ (s : Session) (host : Host), host.IsOrderly →
      (∀ p ∈ s.commands, p.2.FaultsOnly Fault.IsOrdinary (s.context host)) →
      ((∃ b, (s.run host line).result = .ok b) ↔ ¬ HasLongPosition line) := by
  refine ⟨fun r => ?_, fun hshort => ?_, fun hlong => ⟨?_, fun s host => ?_⟩,
    fun s host hhost hcs => Session.exists_result_run_iff hhost hcs line⟩
  · rcases h.expand_cases line with ⟨hlong, herror⟩ | ⟨hshort, t, ht, hiff⟩
    · rw [herror]
      exact iff_of_false (by simp) fun h => h.1 hlong
    · rw [ht, Except.ok.injEq, hiff r]
      exact ⟨fun h => ⟨hshort, h.symm⟩, fun h => h.2.symm⟩
  · rcases h.expand_cases line with ⟨hlong, -⟩ | ⟨-, r, hr, -⟩
    · exact absurd hlong hshort
    · exact ⟨r, hr⟩
  · rcases h.expand_cases line with ⟨-, herror⟩ | ⟨hshort, -⟩
    · exact herror
    · exact absurd hlong hshort
  · exact Session.run_of_hasLongPosition s host hlong

/-- A line that refers to the last of two entries is expanded to it, and a session with the commands of the
shell comes to an end with it. -/
theorem expand_resolves_mark :
    (⟨["ls", "pwd"]⟩ : History).expand "!!" = .ok "pwd" ∧
      ∃ b, (((Session.fresh Session.builtins .default .empty).withStore
        ⟨⟨["ls", "pwd"]⟩, .empty, 10, .empty⟩).run Session.emptyHost "!!").result = .ok b := by
  have mark : "!!".toList = ['!', '!'] := rfl
  have hshort : ¬ HasLongPosition "!!" := by
    rintro ⟨ds, mark', numeral, -⟩
    obtain rfl : ['!'] = ds := List.tail_eq_of_cons_eq (mark.symm.trans mark')
    exact not_isNumeral_mark numeral
  have hhost : Session.emptyHost.IsOrderly := fun _ _ _ => trivial
  obtain ⟨hexpand, -, -, hrun⟩ := expand_resolves_iff ⟨["ls", "pwd"]⟩ "!!"
  refine ⟨(hexpand _).mpr ⟨hshort, .entry mark (.last (show ["ls", "pwd"] = ["ls"] ++ ["pwd"] from rfl))⟩, ?_⟩
  exact (hrun _ Session.emptyHost hhost (Session.faultsOnly_of_mem_builtins hhost)).mpr hshort

/-! ### Positions with zeros in front -/

/-- The first position, written with so many zeros in front. -/
def firstPosition (zeros : Nat) : String := String.ofList ('!' :: (List.replicate zeros '0' ++ ['1']))

theorem toList_firstPosition (zeros : Nat) :
    (firstPosition zeros).toList = '!' :: (List.replicate zeros '0' ++ ['1']) := String.toList_ofList

theorem isNumeral_zeros_append (zeros : Nat) : IsNumeral (List.replicate zeros '0' ++ ['1']) := by
  refine ⟨by simp, fun d hd => ?_⟩
  rcases List.mem_append.mp hd with hd | hd
  · rw [List.eq_of_mem_replicate hd]
    decide
  · rw [List.mem_singleton.mp hd]
    decide

/-- Zeros in front do not count. -/
theorem ofDigits_zeros_append (zeros : Nat) : ofDigits (List.replicate zeros '0' ++ ['1']) = 1 := by
  induction zeros with
  | zero => decide
  | succ zeros ih => exact ih

/-- However many zeros are in front, the line stands for the first entry. -/
theorem standsFor_firstPosition (zeros : Nat) (e : String) (es : List String) :
    StandsFor ⟨e :: es⟩ (firstPosition zeros) e :=
  .entry (toList_firstPosition zeros)
    (.position (isNumeral_zeros_append zeros) (ofDigits_zeros_append zeros) rfl)

/-- With too many zeros it is a position that is too long. -/
theorem hasLongPosition_firstPosition {zeros : Nat} (h : Numeral.maxDigits ≤ zeros) :
    HasLongPosition (firstPosition zeros) := by
  refine ⟨_, toList_firstPosition zeros, isNumeral_zeros_append zeros, ?_⟩
  rw [List.length_append, List.length_replicate, List.length_singleton]
  omega

theorem length_firstPosition (zeros : Nat) : (firstPosition zeros).length - 1 = zeros + 1 := by
  rw [← String.length_toList, toList_firstPosition]
  simp

/-- The only entry is not found when its position is written with four thousand and three hundred zeros in
front, though that is what the line stands for; a session that is given the line comes to nothing but a
fault. -/
theorem expand_of_many_zeros :
    StandsFor ⟨["ls"]⟩ (firstPosition 4300) "ls" ∧
      (⟨["ls"]⟩ : History).expand (firstPosition 4300) = .error (.reading 4301) ∧
      ∀ (s : Session) (host : Host),
        s.run host (firstPosition 4300) = ⟨.error (.numeral (.reading 4301)), s.store, []⟩ := by
  have hlong : HasLongPosition (firstPosition 4300) := hasLongPosition_firstPosition (Nat.le_refl _)
  refine ⟨standsFor_firstPosition 4300 "ls" [], ?_, fun s host => ?_⟩
  · rcases expand_cases ⟨["ls"]⟩ (firstPosition 4300) with ⟨-, herror⟩ | ⟨hshort, -⟩
    · rw [herror, length_firstPosition]
    · exact absurd hlong hshort
  · rw [Session.run_of_hasLongPosition s host hlong, length_firstPosition]

end History

end LineShell
