import LineShell.Disk.Listing
import LineShell.Proofs.Disk.Name
import Mathlib.Data.List.Basic

/-!
# The names that are shown

Which names below a directory are shown is a matter of the directory alone: those to which a way leads
through visible names of directories, and which are visible themselves (`Listing.Shows`). A way is a list
of names, and ways have an order, name by name, in which a way stands before all that go on from it. This
is the order of a drawing.

The trees that are drawn have ways as well (`Listing.pathsOf`), and these are the ways to the names that
are shown (`Listing.mem_pathsOf_children_iff`), in their order and without a repetition
(`Listing.pairwise_pathsOf_children`). For this no name may stand twice in a directory, as is so on any
disk (`Node.IsSound`).
-/

namespace LineShell

/-! ### Sound directories -/

theorem Disk.isName_iff {w : String} :
    IsName w ↔ (w ≠ "" ∧ w ≠ "." ∧ w ≠ "..") ∧ '/' ∉ w.toList ∧ '\x00' ∉ w.toList :=
  ⟨fun h => ⟨⟨h.ne_empty, h.ne_dot, h.ne_dots⟩, h.slash_not_mem, h.null_not_mem⟩,
    fun h => ⟨h.1.1, h.1.2.1, h.1.2.2, h.2.1, h.2.2⟩⟩

instance (w : String) : Decidable (Disk.IsName w) := decidable_of_iff _ Disk.isName_iff.symm

/-- Whether a node can be on a disk: in each directory the names are names, short enough, and none of them
stands for two things. -/
inductive Node.IsSound : Node → Prop where
  /-- A file holds no names. -/
  | file (bytes : List UInt8) : IsSound (.file bytes)
  /-- Nor does a program. -/
  | program (tool : String) : IsSound (.program tool)
  /-- Nor does a device. -/
  | device : IsSound .device
  /-- A link may lead anywhere. -/
  | link (target : String) : IsSound (.link target)
  /-- A directory holds names, each of them once, and under each of them something sound. -/
  | directory {es : Entries} (distinct : (es.map Prod.fst).Nodup)
      (names : ∀ e ∈ es, Disk.IsName e.1 ∧ e.1.utf8ByteSize ≤ Disk.maxNameBytes)
      (nodes : ∀ e ∈ es, IsSound e.2) : IsSound (.directory es)

namespace Node.IsSound

variable {es : Entries}

theorem distinct (h : IsSound (.directory es)) : (es.map Prod.fst).Nodup := by
  cases h
  assumption

theorem isName (h : IsSound (.directory es)) {e : String × Node} (he : e ∈ es) :
    Disk.IsName e.1 ∧ e.1.utf8ByteSize ≤ Disk.maxNameBytes := by
  cases h with
  | directory _ names _ => exact names e he

/-- What stands under a name is found under it. -/
theorem lookup_of_mem (h : IsSound (.directory es)) {name : String} {node : Node}
    (he : (name, node) ∈ es) : es.lookup name = some node := by
  obtain ⟨before, after, rfl⟩ := List.append_of_mem he
  refine List.lookup_eq_some_iff.mpr ⟨before, after, rfl, fun p hp => ?_⟩
  have hdistinct := h.distinct
  rw [List.map_append, List.map_cons, List.nodup_append] at hdistinct
  have hne : p.1 ≠ name :=
    hdistinct.2.2 _ (List.mem_map_of_mem hp) _ List.mem_cons_self
  simpa using hne.symm

end Node.IsSound

namespace Listing

/-- Whether a way leads from a directory to a node that is shown: through visible names of directories,
with a visible name at its end. -/
inductive Shows : Entries → List String → Node → Prop where
  /-- The node stands in the directory itself. -/
  | here {es : Entries} {name : String} {node : Node} (mem : (name, node) ∈ es)
      (visible : isVisible name = true) : Shows es [name] node
  /-- The node is shown below a directory that stands in it. -/
  | inside {es inner : Entries} {name : String} {path : List String} {node : Node}
      (mem : (name, .directory inner) ∈ es) (visible : isVisible name = true)
      (below : Shows inner path node) : Shows es (name :: path) node

mutual

/-- The ways to the names of a tree, in the order in which they are drawn. -/
def pathsOfTree : NameTree → List (List String)
  | .node name cs => [name] :: (pathsOf cs).map (name :: ·)

/-- The ways to the names of trees. -/
def pathsOf : List NameTree → List (List String)
  | [] => []
  | t :: ts => pathsOfTree t ++ pathsOf ts

end

/-! ### The ways of trees -/

theorem mem_pathsOf_iff {ts : List NameTree} {path : List String} :
    path ∈ pathsOf ts ↔ ∃ t ∈ ts, path ∈ pathsOfTree t := by
  induction ts with
  | nil => simp [pathsOf]
  | cons t ts ih => simp [pathsOf, ih]

/-- A way of a tree begins with its name and goes on below. -/
theorem cons_mem_pathsOf_iff {ts : List NameTree} {name : String} {path : List String} :
    name :: path ∈ pathsOf ts ↔ ∃ cs, .node name cs ∈ ts ∧ (path = [] ∨ path ∈ pathsOf cs) := by
  rw [mem_pathsOf_iff]
  constructor
  · rintro ⟨⟨n, cs⟩, ht, hpath⟩
    rw [pathsOfTree, List.mem_cons, List.mem_map] at hpath
    rcases hpath with hpath | ⟨rest, hrest, hpath⟩
    · obtain ⟨rfl, rfl⟩ := List.cons.inj hpath
      exact ⟨cs, ht, .inl rfl⟩
    · obtain ⟨rfl, rfl⟩ := List.cons.inj hpath
      exact ⟨cs, ht, .inr hrest⟩
  · rintro ⟨cs, ht, hpath⟩
    refine ⟨_, ht, ?_⟩
    rw [pathsOfTree, List.mem_cons, List.mem_map]
    rcases hpath with rfl | hpath
    · exact .inl rfl
    · exact .inr ⟨path, hpath, rfl⟩

/-- A way has a name. -/
theorem nil_not_mem_pathsOf (ts : List NameTree) : [] ∉ pathsOf ts := by
  rw [mem_pathsOf_iff]
  rintro ⟨⟨name, cs⟩, -, h⟩
  simp [pathsOfTree] at h

mutual

/-- Whether the names beside each other in a tree are in order. -/
def IsOrderedTree : NameTree → Prop
  | .node _ cs => IsOrdered cs

/-- Whether the names of trees are in order, and those below each of them as well. -/
def IsOrdered : List NameTree → Prop
  | [] => True
  | t :: ts => IsOrderedTree t ∧ (∀ u ∈ ts, t.name < u.name) ∧ IsOrdered ts

end

theorem isOrdered_iff {ts : List NameTree} :
    IsOrdered ts ↔ (∀ t ∈ ts, IsOrderedTree t) ∧ ts.Pairwise fun t u => t.name < u.name := by
  induction ts with
  | nil => simp [IsOrdered]
  | cons t ts ih =>
      rw [IsOrdered, ih, List.pairwise_cons, List.forall_mem_cons]
      tauto

mutual

/-- The ways of a tree are in order if its names are. -/
theorem pairwise_pathsOfTree : ∀ t : NameTree, IsOrderedTree t → (pathsOfTree t).Pairwise (· < ·)
  | .node name cs, h => by
      rw [pathsOfTree, List.pairwise_cons]
      constructor
      · intro path hpath
        obtain ⟨rest, hrest, rfl⟩ := List.mem_map.mp hpath
        cases rest with
        | nil => exact absurd hrest (nil_not_mem_pathsOf cs)
        | cons n ns => exact List.cons_lt_cons_iff.mpr (.inr ⟨rfl, List.nil_lt_cons n ns⟩)
      · rw [List.pairwise_map]
        exact (pairwise_pathsOf cs h).imp fun hlt => List.cons_lt_cons_iff.mpr (.inr ⟨rfl, hlt⟩)

/-- The ways of trees are in order if their names are. -/
theorem pairwise_pathsOf : ∀ ts : List NameTree, IsOrdered ts → (pathsOf ts).Pairwise (· < ·)
  | [], _ => List.Pairwise.nil
  | .node name cs :: ts, ⟨htree, hnames, hrest⟩ => by
      rw [pathsOf, List.pairwise_append]
      refine ⟨pairwise_pathsOfTree (.node name cs) htree, pairwise_pathsOf ts hrest,
        fun path hpath other hother => ?_⟩
      -- the first names decide
      obtain ⟨rest, rfl⟩ : ∃ rest, path = name :: rest := by
        rw [pathsOfTree, List.mem_cons, List.mem_map] at hpath
        rcases hpath with rfl | ⟨rest, -, rfl⟩
        · exact ⟨[], rfl⟩
        · exact ⟨rest, rfl⟩
      cases other with
      | nil => exact absurd hother (nil_not_mem_pathsOf ts)
      | cons n ns =>
          obtain ⟨ds, hmem, -⟩ := cons_mem_pathsOf_iff.mp hother
          exact List.cons_lt_cons_iff.mpr (.inl (hnames _ hmem))

end

/-! ### The trees of a directory -/

/-- The visible trees of entries are those of their visible names. -/
theorem mem_visible_iff {es : Entries} {t : NameTree} :
    t ∈ visible es ↔
      ∃ name node, (name, node) ∈ es ∧ isVisible name = true ∧ t = .node name (children node) := by
  induction es with
  | nil => simp [visible]
  | cons e es ih =>
      obtain ⟨n, nd⟩ := e
      rw [visible]
      by_cases hvisible : isVisible n = true
      · rw [if_pos hvisible, List.mem_cons, ih]
        constructor
        · rintro (rfl | ⟨name, node, hmem, hname, rfl⟩)
          · exact ⟨n, nd, List.mem_cons_self, hvisible, rfl⟩
          · exact ⟨name, node, List.mem_cons_of_mem _ hmem, hname, rfl⟩
        · rintro ⟨name, node, hmem, hname, rfl⟩
          rcases List.mem_cons.mp hmem with heq | hmem
          · cases heq
            exact .inl rfl
          · exact .inr ⟨name, node, hmem, hname, rfl⟩
      · rw [if_neg hvisible, ih]
        constructor
        · rintro ⟨name, node, hmem, hname, rfl⟩
          exact ⟨name, node, List.mem_cons_of_mem _ hmem, hname, rfl⟩
        · rintro ⟨name, node, hmem, hname, rfl⟩
          rcases List.mem_cons.mp hmem with heq | hmem
          · cases heq
            exact absurd hname hvisible
          · exact ⟨name, node, hmem, hname, rfl⟩

/-- The trees of a directory are those of its visible names. -/
theorem mem_children_iff {es : Entries} {t : NameTree} :
    t ∈ children (.directory es) ↔
      ∃ name node, (name, node) ∈ es ∧ isVisible name = true ∧ t = .node name (children node) := by
  rw [children, sortByName, (List.mergeSort_perm _ _).mem_iff, mem_visible_iff]

/-- There is nothing below what is no directory. -/
theorem children_of_not_directory {node : Node} (h : ∀ es, node ≠ .directory es) :
    children node = [] := by
  cases node with
  | directory es => exact absurd rfl (h es)
  | _ => rw [children]

/-- **The ways of the trees of a directory** are those to the nodes that it shows. -/
theorem mem_pathsOf_children_iff {es : Entries} {path : List String} :
    path ∈ pathsOf (children (.directory es)) ↔ ∃ node, Shows es path node := by
  induction path generalizing es with
  | nil =>
      refine iff_of_false (nil_not_mem_pathsOf _) ?_
      rintro ⟨node, h⟩
      cases h
  | cons name path ih =>
      rw [cons_mem_pathsOf_iff]
      constructor
      · rintro ⟨cs, hmem, hpath⟩
        obtain ⟨n, node, hentry, hvisible, htree⟩ := mem_children_iff.mp hmem
        cases htree
        rcases hpath with rfl | hpath
        · exact ⟨node, .here hentry hvisible⟩
        · by_cases hdirectory : ∃ inner, node = .directory inner
          · obtain ⟨inner, rfl⟩ := hdirectory
            obtain ⟨last, hlast⟩ := ih.mp hpath
            exact ⟨last, .inside hentry hvisible hlast⟩
          · rw [children_of_not_directory (not_exists.mp hdirectory)] at hpath
            exact absurd hpath (by simp [pathsOf])
      · rintro ⟨node, h⟩
        cases h with
        | here hentry hvisible =>
            exact ⟨children node, mem_children_iff.mpr ⟨name, node, hentry, hvisible, rfl⟩, .inl rfl⟩
        | inside hentry hvisible hbelow =>
            exact ⟨_, mem_children_iff.mpr ⟨name, _, hentry, hvisible, rfl⟩,
              .inr (ih.mpr ⟨node, hbelow⟩)⟩

/-- The names of the visible trees are among the names, in their order. -/
theorem map_name_visible_sublist (es : Entries) :
    ((visible es).map NameTree.name).Sublist (es.map Prod.fst) := by
  induction es with
  | nil => rw [visible]; exact List.Sublist.refl _
  | cons e es ih =>
      obtain ⟨name, node⟩ := e
      rw [visible]
      by_cases hvisible : isVisible name = true
      · rw [if_pos hvisible]
        exact ih.cons_cons name
      · rw [if_neg hvisible]
        exact ih.cons name

/-- The trees of a sound directory are in order of their names. -/
theorem pairwise_children {es : Entries} (h : Node.IsSound (.directory es)) :
    (children (.directory es)).Pairwise fun t u => t.name < u.name := by
  have hle : (children (.directory es)).Pairwise fun t u => t.name ≤ u.name := by
    rw [children, sortByName]
    refine (List.pairwise_mergeSort (fun a b c hab hbc => ?_) (fun a b => ?_) _).imp fun htu => by
      simpa using htu
    · simp only [decide_eq_true_eq] at hab hbc ⊢
      exact String.le_trans hab hbc
    · simpa using String.le_total a.name b.name
  have hne : (children (.directory es)).Pairwise fun t u => t.name ≠ u.name := by
    rw [← List.pairwise_map (f := NameTree.name) (R := (· ≠ ·))]
    rw [children, sortByName]
    exact ((List.mergeSort_perm _ _).map NameTree.name).nodup_iff.mpr
      (h.distinct.sublist (map_name_visible_sublist es))
  refine (hle.and hne).imp fun ⟨htu, htu'⟩ => ?_
  exact String.not_le.mp fun hut => htu' (String.le_antisymm htu hut)

/-- The trees of a sound node are in order, on all levels. -/
theorem isOrdered_children {node : Node} (h : node.IsSound) : IsOrdered (children node) := by
  induction h with
  | directory distinct names nodes ih =>
      refine isOrdered_iff.mpr ⟨fun t ht => ?_, pairwise_children (.directory distinct names nodes)⟩
      obtain ⟨name, inner, hentry, -, rfl⟩ := mem_children_iff.mp ht
      exact ih _ hentry
  | _ => rw [children, IsOrdered]; trivial

/-- **The ways of the trees of a directory are in order**, so that none of them is there twice. -/
theorem pairwise_pathsOf_children {es : Entries} (h : Node.IsSound (.directory es)) :
    (pathsOf (children (.directory es))).Pairwise (· < ·) :=
  pairwise_pathsOf _ (isOrdered_children h)

end Listing

end LineShell
