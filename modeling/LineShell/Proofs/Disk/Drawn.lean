import LineShell.Disk.Drawing
import LineShell.Proofs.Disk.Shown
import Mathlib.Data.List.Forall2

/-!
# What a drawing tells

Each line of the drawing of a directory stands for the name at the same place among the ways to the names
that are shown: `Listing.Draws` says for each way how its line is to look, from the directory alone. A
unit of the line is that of a last name exactly if no visible name of that directory comes after it.

**Main statements**: `forall₂_draws`, by which the lines of a directory are drawn as its ways are to be,
and `readDrawing?_drawTrees`, by which a drawing is read back as the trees that were drawn, whatever
characters are in the names.
-/

namespace LineShell

namespace Listing

/-! ### The line of a way -/

/-- Whether no visible name of a directory comes after a name. -/
def IsLast (es : Entries) (name : String) : Prop :=
  ∀ e ∈ es, isVisible e.1 = true → e.1 ≤ name

/-- Whether a way from a directory is drawn as a line. -/
inductive Draws : Entries → List String → List Char → Prop where
  /-- A name of the directory itself stands behind its branch. -/
  | here {es : Entries} {name : String} {node : Node} {isLast : Bool} (mem : (name, node) ∈ es)
      (visible : isVisible name = true) (last : isLast = true ↔ IsLast es name) :
      Draws es [name] (branch isLast ++ name.toList)
  /-- What lies further below stands behind the unit of the first name. -/
  | inside {es inner : Entries} {name : String} {path : List String} {line : List Char} {isLast : Bool}
      (mem : (name, .directory inner) ∈ es) (visible : isVisible name = true)
      (last : isLast = true ↔ IsLast es name) (below : Draws inner path line) :
      Draws es (name :: path) (stem isLast ++ line)

mutual

/-- What stands before a tree stands before each of its lines. -/
theorem drawTree_eq_map (before : List Char) (isLast : Bool) :
    ∀ t : NameTree, drawTree before isLast t = (drawTree [] isLast t).map (before ++ ·)
  | .node name cs => by
      rw [drawTree, drawTree, drawTrees_eq_map (before ++ stem isLast) cs,
        drawTrees_eq_map ([] ++ stem isLast) cs]
      simp

/-- What stands before trees stands before each of their lines. -/
theorem drawTrees_eq_map (before : List Char) :
    ∀ ts : List NameTree, drawTrees before ts = (drawTrees [] ts).map (before ++ ·)
  | [] => rfl
  | t :: ts => by
      rw [drawTrees, drawTrees, drawTree_eq_map before ts.isEmpty t, drawTrees_eq_map before ts,
        List.map_append]

end

/-- The lines of a tree at the top: that of its name, and those of the trees below behind a unit. -/
theorem drawTree_nil (isLast : Bool) (name : String) (cs : List NameTree) :
    drawTree [] isLast (.node name cs) =
      (branch isLast ++ name.toList) :: (drawTrees [] cs).map (stem isLast ++ ·) := by
  rw [drawTree, drawTrees_eq_map, List.nil_append, List.nil_append]

/-- The last of the trees of a directory is that of the last visible name. -/
theorem isEmpty_iff_isLast {es : Entries} (h : Node.IsSound (.directory es)) {name : String}
    {pre cs ts : List NameTree} (heq : children (.directory es) = pre ++ .node name cs :: ts) :
    ts.isEmpty = true ↔ IsLast es name := by
  have hordered := pairwise_children h
  rw [heq, List.pairwise_append, List.pairwise_cons] at hordered
  obtain ⟨-, ⟨hafter, -⟩, hbefore⟩ := hordered
  rw [List.isEmpty_iff]
  constructor
  · rintro rfl e he hvisible
    have htree : .node e.1 (children e.2) ∈ pre ++ [.node name cs] :=
      heq ▸ mem_children_iff.mpr ⟨e.1, e.2, he, hvisible, rfl⟩
    rcases List.mem_append.mp htree with hpre | hlast
    · exact String.not_lt.mp (String.lt_asymm (hbefore _ hpre _ List.mem_cons_self))
    · cases List.mem_singleton.mp hlast
      exact String.le_refl _
  · intro hlast
    by_contra hne
    obtain ⟨u, us, rfl⟩ := List.exists_cons_of_ne_nil hne
    have hmem : u ∈ children (.directory es) := by
      rw [heq]
      exact List.mem_append_right _ (List.mem_cons_of_mem _ List.mem_cons_self)
    obtain ⟨n, node, hentry, hvisible, rfl⟩ := mem_children_iff.mp hmem
    exact String.not_le.mpr (hafter _ List.mem_cons_self) (hlast _ hentry hvisible)

/-- The lines of the last trees of a directory are drawn as their ways are to be, if this is so of the
directories in it. Which of the trees is the last one does not depend on those in front. -/
theorem forall₂_draws_of_append {es : Entries} (h : Node.IsSound (.directory es))
    (hinner : ∀ name inner, (name, .directory inner) ∈ es →
      List.Forall₂ (Draws inner) (pathsOf (children (.directory inner)))
        (drawTrees [] (children (.directory inner))))
    {pre ts : List NameTree} (heq : children (.directory es) = pre ++ ts) :
    List.Forall₂ (Draws es) (pathsOf ts) (drawTrees [] ts) := by
  induction ts generalizing pre with
  | nil => exact .nil
  | cons t ts ih =>
      have hmem : t ∈ children (.directory es) := by
        rw [heq]
        exact List.mem_append_right _ List.mem_cons_self
      obtain ⟨name, node, hentry, hvisible, rfl⟩ := mem_children_iff.mp hmem
      have hlast := isEmpty_iff_isLast h heq
      have hbelow : List.Forall₂ (Draws es) ((pathsOf (children node)).map (name :: ·))
          ((drawTrees [] (children node)).map (stem ts.isEmpty ++ ·)) := by
        rw [List.forall₂_map_left_iff, List.forall₂_map_right_iff]
        by_cases hdirectory : ∃ inner, node = .directory inner
        · obtain ⟨inner, rfl⟩ := hdirectory
          exact (hinner name inner hentry).imp fun _ _ hdraws => .inside hentry hvisible hlast hdraws
        · rw [children_of_not_directory (not_exists.mp hdirectory)]
          exact .nil
      have hrest : List.Forall₂ (Draws es) (pathsOf ts) (drawTrees [] ts) :=
        ih (heq.trans (List.append_cons pre _ ts))
      rw [pathsOf, pathsOfTree, drawTrees, drawTree_nil]
      exact List.rel_append (.cons (.here hentry hvisible hlast) hbelow) hrest

/-- **Each line of a directory is that of the way at its place.** -/
theorem forall₂_draws {node : Node} (h : node.IsSound) {es : Entries} (hnode : node = .directory es) :
    List.Forall₂ (Draws es) (pathsOf (children (.directory es)))
      (drawTrees [] (children (.directory es))) := by
  induction h generalizing es with
  | directory distinct names nodes ih =>
      cases hnode
      exact forall₂_draws_of_append (.directory distinct names nodes)
        (fun name inner hmem => ih (name, .directory inner) hmem rfl) (List.nil_append _).symm
  | _ => cases hnode

/-! ### Reading a drawing back -/

mutual

/-- The rows of a tree at the top. -/
def rowsOfTree (isLast : Bool) : NameTree → List Row
  | .node name cs => ⟨0, isLast, name.toList⟩ :: (rowsOf cs).map Row.deeper

/-- The rows of trees at the top. -/
def rowsOf : List NameTree → List Row
  | [] => []
  | t :: ts => rowsOfTree ts.isEmpty t ++ rowsOf ts

end

/-- A unit in front of a line puts its row one deeper. A unit is no branch, so it cannot be taken for the
end of the units. -/
theorem readLine?_stem_append (isLast : Bool) (line : List Char) :
    readLine? (stem isLast ++ line) = (readLine? line).map Row.deeper := by
  cases isLast <;> rfl

mutual

/-- Each line of a tree is read as its row. -/
theorem map_readLine?_drawTree (isLast : Bool) :
    ∀ t : NameTree, (drawTree [] isLast t).map readLine? = (rowsOfTree isLast t).map some
  | .node name cs => by
      rw [drawTree_nil, rowsOfTree, List.map_cons, List.map_cons, readLine?_branch, List.map_map,
        List.map_map]
      have hbelow : (drawTrees [] cs).map (readLine? ∘ (stem isLast ++ ·)) =
          (rowsOf cs).map (some ∘ Row.deeper) := by
        calc (drawTrees [] cs).map (readLine? ∘ (stem isLast ++ ·))
            = ((drawTrees [] cs).map readLine?).map (Option.map Row.deeper) := by
              rw [List.map_map]
              exact List.map_congr_left fun line _ => readLine?_stem_append isLast line
          _ = (rowsOf cs).map (some ∘ Row.deeper) := by
              rw [map_readLine?_drawTrees cs, List.map_map]
              rfl
      rw [hbelow]

/-- Each line of trees is read as its row. -/
theorem map_readLine?_drawTrees :
    ∀ ts : List NameTree, (drawTrees [] ts).map readLine? = (rowsOf ts).map some
  | [] => rfl
  | t :: ts => by
      rw [drawTrees, rowsOf, List.map_append, List.map_append, map_readLine?_drawTree ts.isEmpty t,
        map_readLine?_drawTrees ts]

end

/-- Rows that all lie one deeper are those of the same trees. -/
theorem treesOfRows_map_deeper (rs : List Row) :
    treesOfRows (rs.map Row.deeper) = treesOfRows rs := by
  induction rs using treesOfRows.induct with
  | case1 => rfl
  | case2 r rs ihinner ihrest =>
      have hdepth : (fun row : Row => decide (r.deeper.depth < row.depth)) ∘ Row.deeper =
          fun row => decide (r.depth < row.depth) := by
        funext row
        simp [Row.deeper]
      rw [List.map_cons, treesOfRows, treesOfRows, List.takeWhile_map, List.dropWhile_map, hdepth,
        ihinner, ihrest]
      rfl

/-- The rows of trees begin at the top. -/
theorem takeWhile_rowsOf (ts : List NameTree) :
    (rowsOf ts).takeWhile (0 < ·.depth) = [] ∧ (rowsOf ts).dropWhile (0 < ·.depth) = rowsOf ts := by
  cases ts with
  | nil => exact ⟨rfl, rfl⟩
  | cons t ts =>
      obtain ⟨name, cs⟩ := t
      rw [rowsOf, rowsOfTree, List.cons_append]
      exact ⟨List.takeWhile_cons_of_neg (by simp), List.dropWhile_cons_of_neg (by simp)⟩

/-- Trees are those of their rows. -/
theorem treesOfRows_rowsOf : ∀ ts : List NameTree, treesOfRows (rowsOf ts) = ts
  | [] => by rw [rowsOf, treesOfRows]
  | .node name cs :: ts => by
      have hdeeper : ∀ row ∈ (rowsOf cs).map Row.deeper, decide (0 < row.depth) = true := by
        intro row hrow
        obtain ⟨r, -, rfl⟩ := List.mem_map.mp hrow
        exact decide_eq_true (Nat.succ_pos r.depth)
      rw [rowsOf, rowsOfTree, List.cons_append, treesOfRows]
      simp only [List.takeWhile_append_of_pos hdeeper, List.dropWhile_append_of_pos hdeeper,
        (takeWhile_rowsOf ts).1, (takeWhile_rowsOf ts).2, List.append_nil, treesOfRows_map_deeper,
        String.ofList_toList]
      rw [treesOfRows_rowsOf cs, treesOfRows_rowsOf ts]

/-- A reader that reads each of the lines reads all of them. -/
theorem mapM_readLine?_eq_some {ls : List (List Char)} {rs : List Row}
    (h : ls.map readLine? = rs.map some) : ls.mapM readLine? = some rs := by
  induction ls generalizing rs with
  | nil =>
      cases List.map_eq_nil_iff.mp h.symm
      rfl
  | cons l ls ih =>
      cases rs with
      | nil => cases h
      | cons r rs =>
          obtain ⟨hline, hlines⟩ := List.cons.inj h
          rw [List.mapM_cons, hline, ih hlines]
          rfl

/-- **A drawing is read back as the trees that were drawn.** -/
theorem readDrawing?_drawTrees (ts : List NameTree) : readDrawing? (drawTrees [] ts) = some ts := by
  rw [readDrawing?, mapM_readLine?_eq_some (map_readLine?_drawTrees ts), Option.map_some,
    treesOfRows_rowsOf]

end Listing

end LineShell
