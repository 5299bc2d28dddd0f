import LineShell.Proofs.Command.Sorting
import LineShell.Proofs.Disk.Name
import LineShell.Session.Basic

/-!
# Numerals that are too long for a name

The first argument of `sort` is tried as the name of a file before it is taken for a number. A
numeral that is written out is such a name (`isName_text`), and if there is no file of the name, the
numbers are sorted. But a name can have `maxNameBytes` bytes at most, and a longer numeral ends
`sort` with the fault of the test: it is neither sorted nor turned down as a number. Only the first
numeral matters here; behind it a numeral may be of any length that there is room for, and that decimals
have places for.

**Main statement** (`execute_sort_numerals_iff`): a segment that sorts numerals succeeds, and writes
the line of the numbers in order, exactly when the first numeral is short enough for a name and there are
places and room for all numbers.
-/

namespace LineShell

namespace Decimal

namespace Spelling

variable (f : Spelling)

/-- There is a digit in every spelling. -/
theorem exists_isDecimalDigit_mem_chars : ∃ c ∈ f.chars, isDecimalDigit c = true := by
  obtain ⟨c, cs, hcs⟩ := List.exists_cons_of_ne_nil f.digits_ne_nil
  have hc : c ∈ f.whole ++ f.places := by
    rw [places, hcs]
    exact List.mem_cons_self
  have hbody : c ∈ f.body := by
    rcases List.mem_append.mp hc with hc | hc
    · exact List.mem_append_left _ hc
    · refine List.mem_append_right _ (List.mem_of_mem_tail ?_)
      rw [← places_eq_tail_ending]
      exact hc
  exact ⟨c, List.mem_append_right _ hbody, f.isDecimalDigit_of_mem c hc⟩

/-- A spelling can be the name of a file, but for its length. -/
theorem isName_text : Disk.IsName f.text := by
  obtain ⟨c, hc, hdigit⟩ := f.exists_isDecimalDigit_mem_chars
  have hnot : ∀ cs : List Char, (∀ d ∈ cs, isDecimalDigit d = false) → f.text ≠ String.ofList cs := by
    intro cs hcs h
    have hmem : c ∈ cs := String.ofList_injective h ▸ hc
    rw [hcs c hmem] at hdigit
    cases hdigit
  have hpoint : isDecimalDigit '.' = false := by decide
  have hmark : ∀ d, isDecimalDigit d = false → d ≠ '+' → d ≠ '-' → d ≠ '.' → d ∉ f.text.toList := by
    intro d hd hplus hminus hdot hmem
    rw [text, String.toList_ofList] at hmem
    rcases f.of_mem_chars hmem with h | h | h | h
    · exact hplus h
    · exact hminus h
    · rw [hd] at h
      cases h
    · exact hdot h
  exact {
    ne_empty := hnot [] (by simp)
    ne_dot := hnot ['.'] (by simp [hpoint])
    ne_dots := hnot ['.', '.'] (by simp [hpoint])
    slash_not_mem := hmark '/' (by decide) (by decide) (by decide) (by decide)
    null_not_mem := hmark '\x00' (by decide) (by decide) (by decide) (by decide) }

end Spelling

end Decimal

namespace Command

open Decimal (Spelling read?)

/-! ### Numerals that are written out -/

/-- Numerals are read as their numbers exactly when these can be placed and there is room for them. -/
theorem readNumbers_map_text_eq_ok_iff {room : Nat} {fs : List Spelling} {ds : List Decimal} :
    readNumbers room (fs.map Spelling.text) = .ok ds ↔ ds = fs.map Spelling.number ∧
      ∀ f ∈ fs, f.number.isPlaceable = true ∧ f.number.hasRoom room = true := by
  have hread : ∀ f : Spelling, ∀ d, read? f.text = some d → f.number.isPlaceable = true ∧ d = f.number := by
    intro f d h
    rw [f.read?_text] at h
    split at h
    · next hplaceable => exact ⟨hplaceable, (Option.some.inj h).symm⟩
    · cases h
  rw [readNumbers_eq_ok_iff]
  constructor
  · rintro ⟨hmap, hall⟩
    have hds : ds = fs.map Spelling.number ∧ ∀ f ∈ fs, f.number.isPlaceable = true := by
      clear hall
      induction fs generalizing ds with
      | nil => exact ⟨List.map_eq_nil_iff.mp hmap.symm, fun f hf => absurd hf List.not_mem_nil⟩
      | cons f fs ih =>
          obtain ⟨d, ds, rfl, hd, hds⟩ := List.map_eq_cons_iff.mp hmap.symm
          obtain ⟨hplaceable, hd⟩ := hread f d hd.symm
          obtain ⟨hds, hall⟩ := ih hds.symm
          exact ⟨by rw [List.map_cons, hd, hds], List.forall_mem_cons.mpr ⟨hplaceable, hall⟩⟩
    obtain ⟨rfl, hplaceable⟩ := hds
    exact ⟨rfl, fun f hf => ⟨hplaceable f hf, hall _ (List.mem_map_of_mem hf)⟩⟩
  · rintro ⟨rfl, hall⟩
    refine ⟨?_, List.forall_mem_map.mpr fun f hf => (hall f hf).2⟩
    rw [List.map_map, List.map_map, List.map_inj_left]
    intro f hf
    rw [Function.comp_apply, Function.comp_apply, f.read?_text, if_pos (hall f hf).1]

/-! ### Sorting them -/

/-- Whether numerals are short enough to be sorted. -/
structure AreSortable (room : Nat) (f : Spelling) (fs : List Spelling) : Prop where
  /-- The first can be a name. -/
  isShort : f.text.utf8ByteSize ≤ Disk.maxNameBytes
  /-- Decimals have places for all, and there is room for them. -/
  hasRoom : ∀ g ∈ f :: fs, g.number.isPlaceable = true ∧ g.number.hasRoom room = true

section

variable {f : Spelling} {fs : List Spelling} {s : Store} {es : Entries}

/-- The test for a file of the first numeral ends `sort` if the numeral is too long. -/
theorem run_runSort_of_long (hworking : s.disk.nodeAt s.disk.working = some (.directory es))
    (hfree : ∀ n, es.lookup f.text = some n → ∃ inner, n = .directory inner)
    (hlong : Disk.maxNameBytes < f.text.utf8ByteSize) (ws : List String) (c : Context) :
    (runSort (f.text :: ws)).run c s = ⟨.error (.path (Path.ofString f.text) .nameTooLong), s, []⟩ := by
  have hfile := Disk.isFile_of_isName f.isName_text hworking hfree
  rw [if_neg (Nat.not_le.mpr hlong)] at hfile
  simp [runSort, hfile, Act.ofExcept]

/-- If `sort` returns, the numerals are sortable, or one is turned down. -/
theorem areSortable_of_result (hworking : s.disk.nodeAt s.disk.working = some (.directory es))
    (hfree : ∀ n, es.lookup f.text = some n → ∃ inner, n = .directory inner) {c : Context} {r : Reply}
    (hr : ((runSort ((f :: fs).map Spelling.text)).run c s).result = .ok r) :
    AreSortable c.host.room f fs ∨ ∃ v : String, (runSort ((f :: fs).map Spelling.text)).run c s =
      ⟨.ok .nothing, s, [.err s!"Invalid number: {v}"]⟩ := by
  have hfile := Disk.isFile_of_isName f.isName_text hworking hfree
  rw [List.map_cons] at hr ⊢
  by_cases hshort : f.text.utf8ByteSize ≤ Disk.maxNameBytes
  · rw [if_pos hshort] at hfile
    have hnames : ¬ NamesFile s f.text := by
      intro hnames
      rw [NamesFile, hfile] at hnames
      cases hnames
    rcases runSort_cases hnames hr with ⟨ds, hread, -⟩ | ⟨v, -, hrun⟩
    · rw [← List.map_cons, readNumbers_map_text_eq_ok_iff] at hread
      exact .inl ⟨hshort, hread.2⟩
    · exact .inr ⟨v, hrun⟩
  · rw [run_runSort_of_long hworking hfree (Nat.lt_of_not_le hshort)] at hr
    cases hr

/-- Sortable numerals are sorted. -/
theorem run_runSort_of_areSortable (hworking : s.disk.nodeAt s.disk.working = some (.directory es))
    (hfree : ∀ n, es.lookup f.text = some n → ∃ inner, n = .directory inner) {c : Context}
    (h : AreSortable c.host.room f fs) :
    (runSort ((f :: fs).map Spelling.text)).run c s =
      ⟨.ok (.text (sortedLine ((f :: fs).map Spelling.number))), s, []⟩ := by
  have hfile := Disk.isFile_of_isName f.isName_text hworking hfree
  rw [if_pos h.isShort] at hfile
  have hread := readNumbers_map_text_eq_ok_iff.mpr ⟨rfl, h.hasRoom⟩
  rw [List.map_cons] at hread ⊢
  rw [run_runSort_of_isFile hfile, hread]
  rfl

end

/-! ### The segment -/

/-- A line of numbers is not empty. -/
theorem sortedLine_ne_empty {ds : List Decimal} (hds : ds ≠ []) : sortedLine ds ≠ "" := by
  intro h
  have hwords := words_sortedLine ds
  have hempty : Text.words "" = [] := by decide
  rw [h, hempty] at hwords
  have hnil : sortNumbers ds = [] := List.map_eq_nil_iff.mp hwords.symm
  exact hds (List.Perm.nil_eq (hnil ▸ perm_sortNumbers ds)).symm

section

variable {f : Spelling} {fs : List Spelling} {s : Store} {es : Entries} {cs : Commands}
  {text head tail : String} {ws : List String}

/-- A segment that sorts numerals ends as the command `sort` does. -/
theorem run_execute_sort (hsort : cs.lookup "sort" = some sort)
    (hhead : Text.headAndRest text = some (head, tail))
    (hresolve : s.aliases.resolve s.maxPasses [head] = .ok ("sort" :: ws))
    (hargs : ws ++ Text.words tail = (f :: fs).map Spelling.text) (c : Context) :
    (Session.execute cs text).run c s =
      (Session.runCommand cs "sort" sort ((f :: fs).map Spelling.text)).run c s := by
  rw [Session.run_execute_of_lookup hsort hhead c hresolve, hargs]

/-- The fault of the test for a file is what is said about a first numeral that is too long. -/
theorem run_runCommand_of_long (hworking : s.disk.nodeAt s.disk.working = some (.directory es))
    (hfree : ∀ n, es.lookup f.text = some n → ∃ inner, n = .directory inner)
    (hlong : Disk.maxNameBytes < f.text.utf8ByteSize) (args : List String) (c : Context) :
    (Session.runCommand cs "sort" sort (f.text :: args)).run c s =
      ⟨.ok false, s, [.note (.commandFailed "sort"),
        .err s!"Error: [Errno 36] File name too long: {Text.quote f.text}"]⟩ := by
  have hcommand : (sort.run cs.catalogue (f.text :: args)).run c s = _ :=
    run_runSort_of_long hworking hfree hlong args c
  have hinterrupt : (Fault.path (Path.ofString f.text) .nameTooLong).isInterrupt = false := rfl
  have hmessage : (Fault.path (Path.ofString f.text) .nameTooLong).message =
      Disk.Fault.nameTooLong.messageAt f.text := by
    have htext := Disk.text_ofString_of_isName f.isName_text
    show Disk.Fault.messageAt (Path.ofString f.text).text .nameTooLong = _
    rw [htext]
  rw [Session.run_runCommand_of_run_error hinterrupt hcommand, hmessage, List.nil_append]
  rfl

/-- **A segment that sorts numerals** succeeds, and writes the line of the numbers in order, exactly
if the first numeral can be a name and there are places and room for the numbers; in a working directory,
that is, without a file of this name. A first numeral that is too long for a name makes the segment fail
with what the test for a file says. -/
theorem execute_sort_numerals_iff (hworking : s.disk.nodeAt s.disk.working = some (.directory es))
    (hfree : ∀ n, es.lookup f.text = some n → ∃ inner, n = .directory inner) (c : Context)
    (hsort : cs.lookup "sort" = some sort) (hhead : Text.headAndRest text = some (head, tail))
    (hresolve : s.aliases.resolve s.maxPasses [head] = .ok ("sort" :: ws))
    (hargs : ws ++ Text.words tail = (f :: fs).map Spelling.text) :
    ((runSort ((f :: fs).map Spelling.text)).run c s =
        ⟨.ok (.text (sortedLine ((f :: fs).map Spelling.number))), s, []⟩ ↔
      AreSortable c.host.room f fs) ∧
    ((Session.execute cs text).run c s =
        ⟨.ok true, s, [.out (sortedLine ((f :: fs).map Spelling.number))]⟩ ↔
      AreSortable c.host.room f fs) ∧
    (Disk.maxNameBytes < f.text.utf8ByteSize →
      (runSort ((f :: fs).map Spelling.text)).run c s =
        ⟨.error (.path (Path.ofString f.text) .nameTooLong), s, []⟩ ∧
      (Session.execute cs text).run c s =
        ⟨.ok false, s, [.note (.commandFailed "sort"),
          .err s!"Error: [Errno 36] File name too long: {Text.quote f.text}"]⟩) := by
  rw [run_execute_sort hsort hhead hresolve hargs]
  refine ⟨⟨fun h => ?_, fun h => run_runSort_of_areSortable hworking hfree h⟩,
    ⟨fun h => ?_, fun h => ?_⟩,
    fun hlong => ⟨run_runSort_of_long hworking hfree hlong _ c,
      run_runCommand_of_long hworking hfree hlong _ c⟩⟩
  · rcases areSortable_of_result hworking hfree (congrArg Outcome.result h) with
      hsortable | ⟨v, hnothing⟩
    · exact hsortable
    · rw [hnothing] at h
      cases h
  · obtain ⟨r, written, hrun, hevents⟩ := Session.exists_run_of_run_runCommand h
    rcases areSortable_of_result hworking hfree (congrArg Outcome.result hrun) with
      hsortable | ⟨v, hnothing⟩
    · exact hsortable
    · cases hnothing.symm.trans hrun
      cases hevents
  · have hrun : (sort.run cs.catalogue ((f :: fs).map Spelling.text)).run c s = _ :=
      run_runSort_of_areSortable hworking hfree h
    have hne := sortedLine_ne_empty (List.cons_ne_nil f.number (fs.map Spelling.number))
    rw [Session.run_runCommand_of_run cs "sort" hrun]
    simp [Reply.texts, hne]

end

/-- Three numerals, with a sign or a point or neither, in an empty directory. -/
theorem execute_sort_three_numerals :
    (Session.execute Session.builtins "sort 10 9.50 -3").run
        ⟨Host.always (.finished 0 "" ""), none⟩ ⟨⟨[]⟩, .empty, 10, .empty⟩ =
      ⟨.ok true, ⟨⟨[]⟩, .empty, 10, .empty⟩, [.out "-3 9.5 10"]⟩ := by
  let s : Store := ⟨⟨[]⟩, .empty, 10, .empty⟩
  let f : Spelling := ⟨none, ['1', '0'], none, List.all_eq_true.mp (by decide), by simp⟩
  let fs : List Spelling :=
    [⟨none, ['9'], some ['5', '0'], List.all_eq_true.mp (by decide), by simp⟩,
      ⟨some .minus, ['3'], none, List.all_eq_true.mp (by decide), by simp⟩]
  have hworking : s.disk.nodeAt s.disk.working = some (.directory []) := rfl
  have hfree : ∀ n : Node, List.lookup f.text [] = some n → ∃ inner, n = .directory inner :=
    fun n h => nomatch h
  have hsort : Session.builtins.lookup "sort" = some sort := rfl
  have hhead : Text.headAndRest "sort 10 9.50 -3" = some ("sort", "10 9.50 -3") := by decide +kernel
  have hresolve : s.aliases.resolve s.maxPasses ["sort"] = .ok ("sort" :: []) := by decide +kernel
  have hargs : [] ++ Text.words "10 9.50 -3" = (f :: fs).map Spelling.text := by decide +kernel
  have hsortable : AreSortable (Host.always (.finished 0 "" "")).room f fs :=
    ⟨by decide +kernel, by decide +kernel⟩
  have hline : sortedLine ((f :: fs).map Spelling.number) = "-3 9.5 10" := by
    have hperm : ((f :: fs).map Spelling.number).Perm [⟨-3, 0⟩, ⟨950, -2⟩, ⟨10, 0⟩] := by
      decide +kernel
    rw [sortedLine_eq_of_perm (hperm.map Decimal.toRat), sortedLine,
      sortNumbers_of_pairwise (by decide)]
    decide +kernel
  obtain ⟨-, hiff, -⟩ :=
    execute_sort_numerals_iff hworking hfree ⟨Host.always (.finished 0 "" ""), none⟩
      hsort hhead hresolve hargs
  rw [← hline]
  exact hiff.mpr hsortable

/-- A numeral of ones, so many of them and one more. -/
def onesSpelling (n : Nat) : Spelling where
  sign := none
  whole := List.replicate (n + 1) '1'
  fraction := none
  isDecimalDigit_of_mem := by
    intro c hc
    rw [Option.getD_none, List.append_nil] at hc
    rw [List.eq_of_mem_replicate hc]
    decide
  digits_ne_nil := by simp

/-- Each of the ones takes a byte. -/
theorem utf8ByteSize_text_onesSpelling (n : Nat) : (onesSpelling n).text.utf8ByteSize = n + 1 := by
  have hchars : (onesSpelling n).chars = List.replicate (n + 1) '1' := List.append_nil _
  rw [Spelling.text, hchars]
  generalize n + 1 = k
  induction k with
  | zero => rfl
  | succ k ih =>
      have hone : (String.ofList ['1']).utf8ByteSize = 1 := by decide
      rw [List.replicate_succ', String.ofList_append, String.utf8ByteSize_append, ih, hone]

/-- In an empty directory, with nothing wrong about them, 256 ones are not sorted: `sort` ends with
a fault, and the segment fails. -/
theorem execute_sort_of_256_ones :
    let s : Store := ⟨⟨[]⟩, .empty, 10, .empty⟩
    let c : Context := ⟨Host.always (.finished 0 "" ""), none⟩
    let ones := (onesSpelling 255).text
    s.disk.nodeAt s.disk.working = some (.directory []) ∧ ones.utf8ByteSize = 256 ∧
      (runSort [ones, "2"]).run c s = ⟨.error (.path (Path.ofString ones) .nameTooLong), s, []⟩ ∧
      ((Session.execute Session.builtins (Text.unwords ["sort", ones, "2"])).run c s).result =
        .ok false := by
  intro s c ones
  let two : Spelling := ⟨none, ['2'], none, List.all_eq_true.mp (by decide), by simp⟩
  have hworking : s.disk.nodeAt s.disk.working = some (.directory []) := rfl
  have hfree : ∀ n : Node, List.lookup ones [] = some n → ∃ inner, n = .directory inner :=
    fun n h => nomatch h
  have hsize : ones.utf8ByteSize = 256 := utf8ByteSize_text_onesSpelling 255
  have hlong : Disk.maxNameBytes < ones.utf8ByteSize := by
    rw [hsize]
    decide
  have hword : ∀ w ∈ [ones, "2"], Text.IsWord w := by
    intro w hw
    rcases List.mem_cons.mp hw with rfl | hw
    · exact (onesSpelling 255).isWord_text
    · rw [List.mem_singleton.mp hw]
      decide
  have hsort : Session.builtins.lookup "sort" = some sort := rfl
  have hhead : Text.headAndRest (Text.unwords ["sort", ones, "2"]) =
      some ("sort", Text.unwords [ones, "2"]) :=
    Text.headAndRest_unwords_cons (by decide)
      (Text.isFlush_unwords_cons (hword ones List.mem_cons_self) _)
  have hresolve : s.aliases.resolve s.maxPasses ["sort"] = .ok ("sort" :: []) := by decide +kernel
  have hargs : [] ++ Text.words (Text.unwords [ones, "2"]) =
      [onesSpelling 255, two].map Spelling.text := by
    have htwo : two.text = "2" := by decide
    rw [List.nil_append, Text.words_unwords hword, List.map_cons, List.map_singleton, htwo]
  refine ⟨hworking, hsize, run_runSort_of_long hworking hfree hlong ["2"] c, ?_⟩
  rw [run_execute_sort hsort hhead hresolve hargs, List.map_cons,
    run_runCommand_of_long hworking hfree hlong]

end Command

end LineShell
