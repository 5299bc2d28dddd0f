import LineShell.Disk.Listing

/-!
# Reading a drawing

The way back from a drawing to the tree that was drawn. A line of a drawing is cut into units of
four characters until one of them is a branch; the number of units before it is the depth of the
name that stands behind it. A name has below it the names that follow and lie deeper.

Main statement: `readLine?_branch`, by which a line without units is a name at the top.
-/

namespace LineShell

namespace Listing

/-- A line of a drawing. -/
structure Row where
  /-- How many units stand before the branch. -/
  depth : Nat
  /-- Whether the branch is that of the last name. -/
  isLast : Bool
  /-- The name. -/
  name : List Char
deriving DecidableEq, Repr

/-- A row one unit deeper. -/
def Row.deeper (r : Row) : Row := { r with depth := r.depth + 1 }

/-- The row of a line, cut unit by unit. -/
def readLine? : List Char → Option Row
  | a :: b :: c :: d :: cs =>
      if [a, b, c, d] = branch true then some ⟨0, true, cs⟩
      else if [a, b, c, d] = branch false then some ⟨0, false, cs⟩
      else if [a, b, c, d] = stem true ∨ [a, b, c, d] = stem false then
        (readLine? cs).map Row.deeper
      else none
  | _ => none

/-- The trees whose names stand in rows. -/
def treesOfRows : List Row → List NameTree
  | [] => []
  | r :: rs =>
      .node (String.ofList r.name) (treesOfRows (rs.takeWhile (r.depth < ·.depth))) ::
        treesOfRows (rs.dropWhile (r.depth < ·.depth))
termination_by rs => rs.length
decreasing_by
  · have := (List.takeWhile_sublist (l := rs) (r.depth < ·.depth)).length_le
    simp only [List.length_cons]
    omega
  · have := (List.dropWhile_sublist (l := rs) (r.depth < ·.depth)).length_le
    simp only [List.length_cons]
    omega

/-- The trees that lines draw. -/
def readDrawing? (ls : List (List Char)) : Option (List NameTree) :=
  (ls.mapM readLine?).map treesOfRows

/-- A line without units is a name at the top. -/
theorem readLine?_branch (isLast : Bool) (name : List Char) :
    readLine? (branch isLast ++ name) = some ⟨0, isLast, name⟩ := by
  cases isLast <;> rfl

end Listing

end LineShell
