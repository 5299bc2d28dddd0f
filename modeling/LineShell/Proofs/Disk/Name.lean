import LineShell.Disk.Basic

/-!
# A name in the working directory

A text without slashes that is no dot and no two dots is a path of one name (`ofString_of_isName`).
The way through it ends beside the entries of the working directory, unless the name is longer than
any name can be (`walkWith_of_isName`).

**Main statement** (`isFile_of_isName`): where the working directory has no entry of that name, or a
directory, there is no file at the path. But this is found out only for names that are not too long;
for the others the test fails instead.
-/

namespace LineShell

namespace Chars

/-- Without a marked element nothing is cut. -/
theorem pieces_eq_singleton {α : Type} {p : α → Bool} {as : List α} (h : ∀ a ∈ as, p a = false) :
    pieces p as = [as] := by
  induction as with
  | nil => rfl
  | cons a as ih =>
      have ha : p a = false := h a List.mem_cons_self
      simp [pieces, ha, ih fun b hb => h b (List.mem_cons_of_mem _ hb)]

end Chars

namespace Disk

/-- Whether a text can be the name of an entry, but for its length. -/
structure IsName (w : String) : Prop where
  /-- It is not empty. -/
  ne_empty : w ≠ ""
  /-- It does not stay in place. -/
  ne_dot : w ≠ "."
  /-- It does not lead upward. -/
  ne_dots : w ≠ ".."
  /-- There is no slash in it. -/
  slash_not_mem : '/' ∉ w.toList
  /-- There is no null character in it. -/
  null_not_mem : '\x00' ∉ w.toList

variable {w : String} (hw : IsName w)

include hw

/-- None of the characters of a name is a slash. -/
theorem beq_slash_of_isName : ∀ c ∈ w.toList, (c == '/') = false := by
  intro c hc
  rw [beq_eq_false_iff_ne]
  rintro rfl
  exact hw.slash_not_mem hc

/-- A name is a path of one name from the working directory. -/
theorem ofString_of_isName : Path.ofString w = ⟨"", [w]⟩ := by
  have hslash := beq_slash_of_isName hw
  have hne : w.toList ≠ [] := by simpa using hw.ne_empty
  have hnone : w.toList.takeWhile (· == '/') = [] := by
    obtain ⟨c, cs, hcs⟩ := List.exists_cons_of_ne_nil hne
    rw [hcs] at hslash ⊢
    rw [List.takeWhile_cons_of_neg (by simp [hslash c List.mem_cons_self])]
  have hdot : w.toList ≠ ['.'] := by
    intro h
    apply hw.ne_dot
    rw [← String.ofList_toList (s := w), h]
  rw [Path.ofString, Path.namesOfChars, Chars.pieces_eq_singleton hslash, hnone]
  simp [hne, hdot]

/-- A name is its own text. -/
theorem text_ofString_of_isName : (Path.ofString w).text = w := by
  rw [ofString_of_isName hw, Path.text]
  simp

/-- The way through a name from a directory without a link of that name. -/
theorem walkWith_of_isName {d : Disk} {atLink : Way} {gone : List String} {es : Entries}
    (hgone : d.nodeAt gone.reverse = some (.directory es))
    (hfree : ∀ n, es.lookup w = some n → ∃ inner, n = .directory inner) :
    walkWith d true atLink gone [w] =
      if w.utf8ByteSize ≤ maxNameBytes then .ok (w :: gone) else .error .nameTooLong := by
  rw [walkWith, hgone]
  simp only [if_neg hw.ne_dot, if_neg hw.ne_dots]
  by_cases hlong : w.utf8ByteSize ≤ maxNameBytes
  · rw [if_neg (Nat.not_lt.mpr hlong), if_pos hlong]
    cases hentry : es.lookup w with
    | none => rfl
    | some n =>
        obtain ⟨inner, rfl⟩ := hfree n hentry
        rw [walkWith]
  · rw [if_pos (Nat.lt_of_not_le hlong), if_neg hlong]

omit hw in
/-- What stands below a directory is its entry. -/
theorem nodeBelow_append_singleton {place : List String} {node : Node} {es : Entries}
    (h : nodeBelow place node = some (.directory es)) (w : String) :
    nodeBelow (place ++ [w]) node = es.lookup w := by
  induction place generalizing node with
  | nil =>
      cases h
      simp only [List.nil_append, nodeBelow]
      cases es.lookup w <;> rfl
  | cons name names ih =>
      cases node with
      | directory entries =>
          simp only [List.cons_append, nodeBelow] at h ⊢
          cases hentry : entries.lookup name with
          | none => rw [hentry] at h; cases h
          | some n => rw [hentry] at h; exact ih h
      | _ => cases h

/-- What a name leads to from a working directory without a link or a file of that name. -/
theorem follow_of_isName {d : Disk} {es : Entries}
    (hworking : d.nodeAt d.working = some (.directory es))
    (hfree : ∀ n, es.lookup w = some n → ∃ inner, n = .directory inner) :
    d.follow true false [w] =
      if w.utf8ByteSize ≤ maxNameBytes then
        match es.lookup w with
        | some n => .ok n
        | none => .error .notFound
      else .error .nameTooLong := by
  have hgone : d.nodeAt d.working.reverse.reverse = some (.directory es) := by
    rw [List.reverse_reverse, hworking]
  have hwalk : d.placeOf true false [w] =
      if w.utf8ByteSize ≤ maxNameBytes then .ok (d.working ++ [w]) else .error .nameTooLong := by
    rw [placeOf, maxLinks, walk, if_neg Bool.false_ne_true, walkWith_of_isName hw hgone hfree]
    split
    · simp [Except.map]
    · rfl
  rw [follow, hwalk]
  split
  · have hnode : d.nodeAt (d.working ++ [w]) = es.lookup w := nodeBelow_append_singleton hworking w
    simp only [bind, Except.bind, hnode]
    rfl
  · rfl

/-- **A test for a file of a name** of which there is none. -/
theorem isFile_of_isName {d : Disk} {es : Entries}
    (hworking : d.nodeAt d.working = some (.directory es))
    (hfree : ∀ n, es.lookup w = some n → ∃ inner, n = .directory inner) :
    d.isFile (Path.ofString w) =
      if w.utf8ByteSize ≤ maxNameBytes then .ok false else .error .nameTooLong := by
  have hnull : w.toList.contains '\x00' = false := by simpa using hw.null_not_mem
  have hfind : d.find (Path.ofString w) =
      if w.utf8ByteSize ≤ maxNameBytes then
        match es.lookup w with
        | some n => .ok n
        | none => .error .notFound
      else .error .nameTooLong := by
    rw [find, text_ofString_of_isName hw, checkText, hnull, if_neg Bool.false_ne_true,
      ofString_of_isName hw]
    by_cases hlong : maxPathBytes < w.utf8ByteSize
    · -- A text that is too long for a path is too long for a name.
      have hname : ¬ w.utf8ByteSize ≤ maxNameBytes := by
        unfold maxPathBytes at hlong
        unfold maxNameBytes
        omega
      rw [if_pos hlong, if_neg hname]
      rfl
    · rw [if_neg hlong]
      exact follow_of_isName hw hworking hfree
  rw [isFile, test, hfind]
  by_cases hlong : w.utf8ByteSize ≤ maxNameBytes
  · rw [if_pos hlong, if_pos hlong]
    cases hentry : es.lookup w with
    | none => rfl
    | some n =>
        obtain ⟨inner, rfl⟩ := hfree n hentry
        rfl
  · rw [if_neg hlong, if_neg hlong]
    rfl

end Disk

end LineShell
