import LineShell.Proofs.Decimal.Canonical
import LineShell.Proofs.History.References

/-!
# Rows

A printed history has a row for every entry, in order, and the rows are numbered from one
(`History.map_text_rows`, `History.map_number_rows`). Positions are pushed to the right end of a field that
has room for the number of entries. The spaces in front come off again (`History.trimStart_alignRight`), and
what is left is the numeral of the position (`History.shownPosition_of_mem_rows`).

The line that refers to a row puts an exclamation mark before that numeral (`History.lineTo`). Reading it
goes the other way: digits, which may have zeros in front, are taken for a number, and the number for a
position (`History.expand_lineTo`).

**Main statement** (`History.expand_lineTo_rows`): the two ways agree. Whatever numeral is behind the mark,
the line is expanded to the entry of the row with that number, and to itself if there is none. The numerals
that the rows show can all be read, unless there are more entries than any memory holds.
-/

namespace LineShell

namespace HistoryRow

/-- The position that a row shows, without the spaces in front. -/
def shownPosition (r : HistoryRow) : List Char := Chars.trimStart r.position.toList

/-- The number of a row. -/
def number (r : HistoryRow) : Nat := ofDigits r.shownPosition

end HistoryRow

namespace Numeral

open Calc (IsNumeral)

theorem isNumeral_digits (n : Nat) : IsNumeral (digits n) :=
  ⟨digits_ne_nil n, fun _ hd => isAsciiDigit_of_mem_digits hd⟩

end Numeral

namespace History

open Calc (IsNumeral)

/-! ### Pushing to the right -/

theorem length_alignRight {width : Nat} {cs : List Char} (h : cs.length ≤ width) :
    (alignRight width cs).length = width := by
  rw [alignRight, List.length_append, List.length_replicate]
  omega

/-- The spaces come off again. -/
theorem trimStart_alignRight (width : Nat) {cs : List Char} (h : Chars.IsFlush cs) :
    Chars.trimStart (alignRight width cs) = cs := by
  have hspaces : ∀ c ∈ List.replicate (width - cs.length) ' ', isBlank c = true := by
    intro c hc
    rw [List.eq_of_mem_replicate hc]
    decide
  rw [alignRight, Chars.trimStart, List.dropWhile_append_of_pos hspaces]
  exact h.trimStart_eq

theorem isFlush_digits (n : Nat) : Chars.IsFlush (Numeral.digits n) :=
  Chars.isFlush_of_not_isBlank fun _ hc =>
    isBlank_of_isDecimalDigit (isDecimalDigit_of_isAsciiDigit (Numeral.isAsciiDigit_of_mem_digits hc))

/-! ### Rows and entries -/

variable {h : History} {time : String}

/-- A row for every entry, in order. -/
theorem map_text_rows (h : History) (time : String) : (h.rows time).map HistoryRow.text = h.entries := by
  rw [rows, List.map_map]
  exact List.zipIdx_map_fst 0 h.entries

/-- The rows are the entries with their positions, counted from one. -/
theorem mem_rows_iff {r : HistoryRow} :
    r ∈ h.rows time ↔ ∃ i, h.entries[i]? = some r.text ∧ r.time = time ∧
      r.position = String.ofList (alignRight (Numeral.length h.length) (Numeral.digits (i + 1))) := by
  simp only [rows, List.mem_map, Prod.exists, List.mem_zipIdx_iff_getElem?]
  constructor
  · rintro ⟨e, i, hentry, rfl⟩
    exact ⟨i, hentry, rfl, rfl⟩
  · rintro ⟨i, hentry, htime, hposition⟩
    exact ⟨r.text, i, hentry, by rw [← htime, ← hposition]⟩

/-- What is left of the field is the numeral. -/
theorem shownPosition_of_eq_alignRight {r : HistoryRow} {width n : Nat}
    (hr : r.position = String.ofList (alignRight width (Numeral.digits n))) :
    r.shownPosition = Numeral.digits n := by
  rw [HistoryRow.shownPosition, hr, String.toList_ofList]
  exact trimStart_alignRight width (isFlush_digits n)

theorem number_of_eq_alignRight {r : HistoryRow} {width n : Nat}
    (hr : r.position = String.ofList (alignRight width (Numeral.digits n))) : r.number = n := by
  rw [HistoryRow.number, shownPosition_of_eq_alignRight hr, ofDigits_digits]

/-- The rows are numbered from one. -/
theorem map_number_rows (h : History) (time : String) :
    (h.rows time).map HistoryRow.number = List.range' 1 h.length := by
  calc (h.rows time).map HistoryRow.number
      = (h.entries.zipIdx.map Prod.snd).map (1 + ·) := by
        rw [rows, List.map_map, List.map_map]
        refine List.map_congr_left fun p _ => ?_
        rw [Function.comp_apply, Function.comp_apply, Nat.add_comm]
        exact number_of_eq_alignRight rfl
    _ = List.range' 1 h.length := by
        rw [List.zipIdx_map_snd, List.map_add_range', length]

/-- Every row shows the numeral of its number, in a field with room for the number of entries. -/
theorem shownPosition_of_mem_rows {r : HistoryRow} (hr : r ∈ h.rows time) :
    r.shownPosition = Numeral.digits r.number ∧ r.shownPosition.length ≤ Numeral.length h.length ∧
      r.position.length = Numeral.length h.length := by
  obtain ⟨i, hentry, -, hposition⟩ := mem_rows_iff.mp hr
  have hi : i + 1 ≤ h.length := (List.getElem?_eq_some_iff.mp hentry).1
  have hwidth : (Numeral.digits (i + 1)).length ≤ Numeral.length h.length := by
    rw [← Numeral.length_eq_length_digits]
    exact Numeral.length_mono hi
  rw [number_of_eq_alignRight hposition, shownPosition_of_eq_alignRight hposition, hposition,
    String.length_ofList]
  exact ⟨rfl, hwidth, length_alignRight hwidth⟩

/-- An entry is found by the number of its row, and no entry by any other number. -/
theorem entry?_eq_some_iff_rows (time : String) {n : Nat} {e : String} :
    h.entry? n = some e ↔ ∃ r ∈ h.rows time, r.number = n ∧ r.text = e := by
  rw [entry?_eq_some_iff]
  constructor
  · rintro ⟨i, rfl, hentry⟩
    have hrow : ⟨String.ofList (alignRight (Numeral.length h.length) (Numeral.digits (i + 1))), time, e⟩
        ∈ h.rows time := mem_rows_iff.mpr ⟨i, hentry, rfl, rfl⟩
    exact ⟨_, hrow, number_of_eq_alignRight rfl, rfl⟩
  · rintro ⟨r, hr, rfl, rfl⟩
    obtain ⟨i, hentry, -, hposition⟩ := mem_rows_iff.mp hr
    exact ⟨i, number_of_eq_alignRight hposition, hentry⟩

/-! ### Lines that refer to positions -/

/-- The line that refers to the position that digits write. -/
def lineTo (ds : List Char) : String := String.ofList ('!' :: ds)

theorem toList_lineTo (ds : List Char) : (lineTo ds).toList = '!' :: ds := String.toList_ofList

/-- **What such a line is expanded to**: digits are read as a number, and the number finds the entry. -/
theorem expand_lineTo {ds : List Char} (hds : IsNumeral ds) :
    h.expand (lineTo ds) = (Numeral.read ds).map fun n => (h.entry? n).getD (lineTo ds) := by
  rw [expand_of_mark (toList_lineTo ds), Reference.ofChars_of_isNumeral hds, resolve]
  cases Numeral.read ds <;> rfl

theorem expand_lineTo_of_length_le {ds : List Char} (hds : IsNumeral ds)
    (hshort : ds.length ≤ Numeral.maxDigits) :
    h.expand (lineTo ds) = .ok ((h.entry? (ofDigits ds)).getD (lineTo ds)) := by
  rw [expand_lineTo hds, Numeral.read_eq_ok hshort]
  rfl

/-- A numeral with the number of a row is expanded to its entry, whatever zeros are in front. -/
theorem expand_lineTo_of_mem_rows {ds : List Char} (hds : IsNumeral ds)
    (hshort : ds.length ≤ Numeral.maxDigits) {r : HistoryRow} (hr : r ∈ h.rows time)
    (hnumber : r.number = ofDigits ds) : h.expand (lineTo ds) = .ok r.text := by
  have hentry : h.entry? (ofDigits ds) = some r.text :=
    (entry?_eq_some_iff_rows time).mpr ⟨r, hr, hnumber, rfl⟩
  rw [expand_lineTo_of_length_le hds hshort, hentry, Option.getD_some]

/-- A numeral with the number of no row stays as it is. -/
theorem expand_lineTo_of_forall_ne {ds : List Char} (hds : IsNumeral ds)
    (hshort : ds.length ≤ Numeral.maxDigits) (hnumber : ∀ r ∈ h.rows time, r.number ≠ ofDigits ds) :
    h.expand (lineTo ds) = .ok (lineTo ds) := by
  have hentry : h.entry? (ofDigits ds) = none := by
    refine Option.eq_none_iff_forall_ne_some.mpr fun e he => ?_
    obtain ⟨r, hr, hn, -⟩ := (entry?_eq_some_iff_rows time).mp he
    exact hnumber r hr hn
  rw [expand_lineTo_of_length_le hds hshort, hentry, Option.getD_none]

/-- The numerals that the rows show can all be read exactly if the number of entries can. -/
theorem length_shownPosition_le_iff (h : History) (time : String) :
    (∀ r ∈ h.rows time, r.shownPosition.length ≤ Numeral.maxDigits) ↔
      Numeral.length h.length ≤ Numeral.maxDigits := by
  constructor
  · intro hrows
    rcases Nat.eq_zero_or_pos h.length with hzero | hpos
    · rw [hzero]
      decide
    · -- The last row shows the number of entries.
      obtain ⟨r, hr, hnumber⟩ : ∃ r ∈ h.rows time, r.number = h.length := by
        refine List.mem_map.mp ?_
        rw [map_number_rows, List.mem_range'_1]
        omega
      rw [Numeral.length_eq_length_digits, ← hnumber, ← (shownPosition_of_mem_rows hr).1]
      exact hrows r hr
  · intro hlength r hr
    exact Nat.le_trans (shownPosition_of_mem_rows hr).2.1 hlength

/-- **What the history shows is what its positions are expanded to.** There is a row for every entry, in
order. The rows are numbered from one, carry the time of printing and have fields of one width. The line
with the numeral that a row shows is expanded to the entry of the row. This is so of every row exactly if
the number of entries has a numeral that is converted, of four thousand and three hundred digits at most;
a list in memory has fewer entries by far.

So it is with any other numeral that is short enough to be read: it is expanded to the entry of the row
that has its number, also with zeros in front, and without such a row it stays as it is. -/
theorem expand_lineTo_rows (h : History) (time : String) :
    (h.rows time).map HistoryRow.text = h.entries ∧
    (h.rows time).map HistoryRow.number = List.range' 1 h.length ∧
    (∀ r ∈ h.rows time, r.time = time ∧ r.position.length = Numeral.length h.length) ∧
    ((∀ r ∈ h.rows time, h.expand (lineTo r.shownPosition) = .ok r.text) ↔
      Numeral.length h.length ≤ Numeral.maxDigits) ∧
    ∀ ds, IsNumeral ds → ds.length ≤ Numeral.maxDigits →
      (∀ r ∈ h.rows time, r.number = ofDigits ds → h.expand (lineTo ds) = .ok r.text) ∧
      ((∀ r ∈ h.rows time, r.number ≠ ofDigits ds) → h.expand (lineTo ds) = .ok (lineTo ds)) := by
  refine ⟨map_text_rows h time, map_number_rows h time, fun r hr => ⟨?_, ?_⟩, ?_, fun ds hds hshort =>
    ⟨fun r hr => expand_lineTo_of_mem_rows hds hshort hr, expand_lineTo_of_forall_ne hds hshort⟩⟩
  · obtain ⟨i, -, htime, -⟩ := mem_rows_iff.mp hr
    exact htime
  · exact (shownPosition_of_mem_rows hr).2.2
  · rw [← length_shownPosition_le_iff h time]
    refine forall₂_congr fun r hr => ?_
    have hnumeral : IsNumeral r.shownPosition := by
      rw [(shownPosition_of_mem_rows hr).1]
      exact Numeral.isNumeral_digits r.number
    constructor
    · intro hexpand
      by_contra hlong
      rw [expand_lineTo hnumeral, Numeral.read, if_pos (Nat.lt_of_not_le hlong)] at hexpand
      cases hexpand
    · intro hshort
      exact expand_lineTo_of_mem_rows hnumeral hshort hr rfl

/-- Ten entries have fields of two characters, and the first is found with and without a zero in front. -/
example :
    ((⟨List.replicate 10 "ls"⟩ : History).rows "now").head? = some ⟨" 1", "now", "ls"⟩ ∧
      (⟨List.replicate 10 "ls"⟩ : History).expand (lineTo ['0', '1']) = .ok "ls" ∧
      (⟨List.replicate 10 "ls"⟩ : History).expand (lineTo ['1', '1']) = .ok "!11" := by
  decide +kernel

end History

end LineShell
