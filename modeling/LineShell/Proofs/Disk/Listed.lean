import LineShell.Proofs.Disk.Below
import LineShell.Proofs.Disk.Drawn

/-!
# The listing of a directory

There is a listing of a directory if it can be found out of each name that is shown whether it is to be
gone into, and if the directories do not lie too deep in one another (`Listing.IsListable`,
`Listing.checkTrees_eq_ok_iff`).

**Main statement** (`Listing.ofPath_draws`): exactly then is a directory listed; and its listing has, behind
the path, one line for each name that is shown and no other, in the order of their ways, with the branch of
a last name at the last names, and is read back as the ordered trees of these ways.

A link is named and not entered, but what it leads to is asked for before it is known for a link. A link to
a name that is too long keeps the directory from being listed (`Listing.ofPath_of_link_to_long_name`).
-/

namespace LineShell

/-- The path of a way below a path. -/
def Path.below (p : Path) (path : List String) : Path := { p with names := p.names ++ path }

@[simp] theorem Path.below_singleton (p : Path) (name : String) : p.below [name] = p.child name := rfl

theorem Path.below_cons (p : Path) (name : String) (path : List String) :
    p.below (name :: path) = (p.child name).below path := by
  rw [below, below, child, List.append_assoc, List.singleton_append]

namespace Listing

open Disk

variable {d : Disk} {depth : Nat} {p : Path} {es : Entries}

/-- Whether a directory at a path can be listed with room for so many directories one within another. -/
structure IsListable (d : Disk) (depth : Nat) (p : Path) (es : Entries) : Prop where
  /-- It can be found out of each name if it is to be gone into. -/
  clear : ∀ path node, Shows es path node → IsClear d (p.below path) node
  /-- There is room for each directory. -/
  shallow : ∀ path inner, Shows es path (.directory inner) → path.length ≤ depth

/-- A directory can be listed if this is so of those in it, with room for one less. -/
theorem isListable_iff :
    IsListable d depth p es ↔ ∀ name node, (name, node) ∈ es → isVisible name = true →
      IsClear d (p.child name) node ∧
        ∀ inner, node = .directory inner → ∃ r, depth = r + 1 ∧ IsListable d r (p.child name) inner := by
  constructor
  · rintro ⟨hclear, hshallow⟩ name node hmem hvisible
    refine ⟨hclear [name] node (.here hmem hvisible), ?_⟩
    rintro inner rfl
    obtain ⟨r, rfl⟩ : ∃ r, depth = r + 1 :=
      Nat.exists_eq_add_of_le' (hshallow [name] inner (.here hmem hvisible))
    refine ⟨r, rfl, fun path last h => ?_, fun path last h => ?_⟩
    · rw [← Path.below_cons]
      exact hclear (name :: path) last (.inside hmem hvisible h)
    · exact Nat.le_of_succ_le_succ (hshallow (name :: path) last (.inside hmem hvisible h))
  · intro h
    constructor
    · rintro path node hshows
      cases hshows with
      | here hmem hvisible =>
          rw [Path.below_singleton]
          exact (h _ node hmem hvisible).1
      | inside hmem hvisible hbelow =>
          obtain ⟨r, -, hinner⟩ := (h _ _ hmem hvisible).2 _ rfl
          rw [Path.below_cons]
          exact hinner.clear _ node hbelow
    · rintro path inner hshows
      cases hshows with
      | here hmem hvisible =>
          obtain ⟨r, rfl, -⟩ := (h _ _ hmem hvisible).2 _ rfl
          exact Nat.succ_le_succ (Nat.zero_le r)
      | inside hmem hvisible hbelow =>
          obtain ⟨r, rfl, hinner⟩ := (h _ _ hmem hvisible).2 _ rfl
          exact Nat.succ_le_succ (hinner.shallow _ inner hbelow)

/-! ### Going through the trees -/

/-- Trees can be gone through if each of them can. -/
theorem checkTrees_eq_ok_iff_forall {ts : List NameTree} :
    checkTrees d depth p ts = .ok () ↔ ∀ t ∈ ts, checkTree d depth p t = .ok () := by
  induction ts with
  | nil => simp [checkTrees]
  | cons t ts ih =>
      rw [checkTrees, List.forall_mem_cons, ← ih]
      cases checkTree d depth p t <;> simp

/-- A first name of which it cannot be found out whether it is to be gone into ends it all. -/
theorem checkTrees_of_isEntered_eq_error {name : String} {e : Error}
    (h : isEntered d (p.child name) = .error e) (cs ts : List NameTree) :
    checkTrees d depth p (.node name cs :: ts) = .error e := by
  rw [checkTrees, checkTree.eq_def]
  simp only [h]

/-- The tree of a name can be gone through if it can be found out whether it is to be gone into, and there
is room for it if it is that of a directory, and for the trees below it. -/
theorem checkTree_child_eq_ok_iff {name : String} {node : Node} (hp : d.find p = .ok (.directory es))
    (hes : Node.IsSound (.directory es)) (hmem : (name, node) ∈ es)
    (hinner : ∀ inner r, node = .directory inner → d.find (p.child name) = .ok (.directory inner) →
      (checkTrees d r (p.child name) (children (.directory inner)) = .ok () ↔
        IsListable d r (p.child name) inner)) :
    checkTree d depth p (.node name (children node)) = .ok () ↔
      IsClear d (p.child name) node ∧
        ∀ inner, node = .directory inner → ∃ r, depth = r + 1 ∧ IsListable d r (p.child name) inner := by
  rw [checkTree.eq_def]
  dsimp only
  by_cases hclear : IsClear d (p.child name) node
  · rw [isEntered_child hp hes hmem hclear]
    cases node with
    | directory inner =>
        have hfind := find_child hp hes hmem hclear.short (by simp)
        cases depth with
        | zero =>
            refine iff_of_false (by simp [Node.isDirectory]) fun h => ?_
            obtain ⟨r, hr, -⟩ := h.2 inner rfl
            cases hr
        | succ depth =>
            simp only [Node.isDirectory, hinner inner depth rfl hfind]
            constructor
            · intro h
              refine ⟨hclear, ?_⟩
              rintro _ ⟨rfl⟩
              exact ⟨depth, rfl, h⟩
            · rintro ⟨-, h⟩
              obtain ⟨r, hr, hlistable⟩ := h inner rfl
              cases hr
              exact hlistable
    | _ => exact iff_of_true rfl ⟨hclear, by simp⟩
  · rw [isEntered_child_of_not hp hes hmem hclear]
    exact iff_of_false (by simp) fun h => hclear h.1

/-- **The trees of a directory can be gone through** exactly if it can be listed. -/
theorem checkTrees_eq_ok_iff {node : Node} (hnode : node.IsSound) (hes : node = .directory es)
    (hp : d.find p = .ok node) :
    checkTrees d depth p (children (.directory es)) = .ok () ↔ IsListable d depth p es := by
  induction hnode generalizing p es depth with
  | @directory entries distinct names nodes ih =>
      cases hes
      have hname (name : String) (node : Node) (hmem : (name, node) ∈ entries) :
          checkTree d depth p (.node name (children node)) = .ok () ↔
            IsClear d (p.child name) node ∧ ∀ inner, node = .directory inner →
              ∃ r, depth = r + 1 ∧ IsListable d r (p.child name) inner :=
        checkTree_child_eq_ok_iff hp (.directory distinct names nodes) hmem fun inner r hnode hfind =>
          ih (name, node) hmem hnode (hnode ▸ hfind)
      rw [checkTrees_eq_ok_iff_forall, isListable_iff]
      constructor
      · intro h name node hmem hvisible
        exact (hname name node hmem).mp (h _ (mem_children_iff.mpr ⟨name, node, hmem, hvisible, rfl⟩))
      · intro h t ht
        obtain ⟨name, node, hmem, hvisible, rfl⟩ := mem_children_iff.mp ht
        exact (hname name node hmem).mpr (h name node hmem hvisible)
  | _ => cases hes

/-! ### The listing -/

variable (hp : d.find p = .ok (.directory es)) (hes : Node.IsSound (.directory es))

include hp in
/-- The listing of a directory is its lines, if its trees can be gone through. -/
theorem ofPath_of_find :
    ofPath d depth p = (checkTrees d depth p (children (.directory es))).map fun _ => lines p es := by
  rw [ofPath, hp]

include hp in
theorem ofPath_eq_ok_iff {ls : List String} :
    ofPath d depth p = .ok ls ↔
      checkTrees d depth p (children (.directory es)) = .ok () ∧ ls = lines p es := by
  rw [ofPath_of_find hp]
  cases checkTrees d depth p (children (.directory es)) with
  | error e => simp [Except.map]
  | ok u => simp [Except.map, eq_comm]

include hp hes in
/-- **The listing of a directory.** There is one exactly if it can be found out of every name that is shown
whether it is to be gone into, and there is room. Its lines then stand for the ways to the names that are
shown, which are in order and none of them there twice, each line drawn as its way is to be; and what is
read from the lines, cut into units, are the trees of just these ways. -/
theorem ofPath_draws :
    ((∃ ls, ofPath d depth p = .ok ls) ↔ IsListable d depth p es) ∧
      ∀ ls, ofPath d depth p = .ok ls → ∃ paths drawing ts,
        ls = p.text :: drawing.map String.ofList ∧
        (∀ path, path ∈ paths ↔ ∃ node, Shows es path node) ∧
        paths.Pairwise (· < ·) ∧
        List.Forall₂ (Draws es) paths drawing ∧
        readDrawing? drawing = some ts ∧ IsOrdered ts ∧ pathsOf ts = paths := by
  constructor
  · rw [← checkTrees_eq_ok_iff hes rfl hp]
    constructor
    · rintro ⟨ls, hls⟩
      exact ((ofPath_eq_ok_iff hp).mp hls).1
    · intro h
      exact ⟨lines p es, (ofPath_eq_ok_iff hp).mpr ⟨h, rfl⟩⟩
  · intro ls hls
    obtain ⟨-, rfl⟩ := (ofPath_eq_ok_iff hp).mp hls
    exact ⟨pathsOf (children (.directory es)), drawTrees [] (children (.directory es)),
      children (.directory es), rfl, fun _ => mem_pathsOf_children_iff, pairwise_pathsOf_children hes,
      forall₂_draws hes rfl, readDrawing?_drawTrees _, isOrdered_children hes, rfl⟩

/-- A disk with a directory in which the name of a link begins like a unit of a drawing. The link leads to
the directory that it is in. -/
def shelf : Disk where
  root := [("b", .directory [("│   x", .link "/b"), ("z", .file [])]), (".git", .directory []),
    ("a", .link "b")]
  working := []

/-- The names of the disk are in order: a link, and a directory with a file and a link. -/
theorem children_shelf : children (.directory shelf.root) =
    [.node "a" [], .node "b" [.node "z" [], .node "│   x" []]] := by
  simp [shelf, children, visible, sortByName, isVisible, ignoredNames, List.isPrefixOf, List.mergeSort,
    List.MergeSort.Internal.splitInTwo, NameTree.name]

/-- The drawing is read back, though a name in it begins like a unit. -/
theorem ofPath_shelf :
    (shelf.find ⟨"", []⟩ = .ok (.directory shelf.root) ∧ Node.IsSound (.directory shelf.root)) ∧
      (ofPath shelf 1 ⟨"", []⟩ = .ok [".", "├── a", "└── b", "    ├── z", "    └── │   x"] ∧
        IsListable shelf 1 ⟨"", []⟩ shelf.root) ∧
      ∃ paths drawing ts,
        [".", "├── a", "└── b", "    ├── z", "    └── │   x"] = "." :: drawing.map String.ofList ∧
        (∀ path, path ∈ paths ↔ ∃ node, Shows shelf.root path node) ∧
        paths.Pairwise (· < ·) ∧
        List.Forall₂ (Draws shelf.root) paths drawing ∧
        readDrawing? drawing = some ts ∧ IsOrdered ts ∧ pathsOf ts = paths := by
  have hp : shelf.find ⟨"", []⟩ = .ok (.directory shelf.root) := rfl
  have hb : Node.IsSound (.directory [("│   x", .link "/b"), ("z", .file [])]) :=
    .directory (by decide) (by decide) (by simp [Node.IsSound.link, Node.IsSound.file])
  have hgit : Node.IsSound (.directory []) := .directory (by decide) (by decide) (by simp)
  have hes : Node.IsSound (.directory shelf.root) :=
    .directory (by decide) (by decide) (by simp [shelf, hb, hgit, Node.IsSound.link])
  have hls : ofPath shelf 1 ⟨"", []⟩ = .ok [".", "├── a", "└── b", "    ├── z", "    └── │   x"] := by
    rw [ofPath_eq_ok_iff hp, lines, children_shelf]
    decide +kernel
  exact ⟨⟨hp, hes⟩, ⟨hls, (ofPath_draws hp hes).1.mp ⟨_, hls⟩⟩, (ofPath_draws hp hes).2 _ hls⟩

/-- A text that is too long for a name by one character. -/
def longName : String := String.ofList (List.replicate 256 'x')

/-- But for its length it could be one. -/
theorem isName_longName : IsName longName := by
  have hchars : longName.toList = List.replicate 256 'x' := String.toList_ofList
  have hall : ∀ c ∈ longName.toList, c = 'x' := fun c hc => List.eq_of_mem_replicate (hchars ▸ hc)
  refine isName_iff.mpr ⟨⟨?_, ?_, ?_⟩, fun h => absurd (hall _ h) (by decide), fun h =>
    absurd (hall _ h) (by decide)⟩
  all_goals
    rintro heq
    rw [heq] at hchars
    cases hchars

/-- A disk with a link to a name that no entry can have. -/
def longLink : Disk where
  root := [("l", .link longName)]
  working := []

/-- **A link can keep a directory from being listed**, though it is only to be named. -/
theorem ofPath_of_link_to_long_name :
    (longLink.find ⟨"", []⟩ = .ok (.directory longLink.root) ∧ Node.IsSound (.directory longLink.root)) ∧
      Shows longLink.root ["l"] (.link longName) ∧
      ∀ depth, ofPath longLink depth ⟨"", []⟩ = .error (.path ⟨"", ["l"]⟩ .nameTooLong) := by
  have hp : longLink.find ⟨"", []⟩ = .ok (.directory longLink.root) := rfl
  have hes : Node.IsSound (.directory longLink.root) :=
    .directory (by decide) (by decide) (List.forall_mem_singleton.mpr (.link _))
  have hmem : ("l", .link longName) ∈ longLink.root := List.mem_cons_self
  have hfind : longLink.find ⟨"", ["l"]⟩ = .error .nameTooLong :=
    find_of_link_to_long_name rfl hes hmem isName_longName (by decide +kernel)
  have hchildren : children (.directory longLink.root) = [.node "l" []] := by
    simp [longLink, children, visible, sortByName, isVisible, ignoredNames, List.isPrefixOf]
  have hentered : isEntered longLink (Path.child ⟨"", []⟩ "l") =
      .error (.path ⟨"", ["l"]⟩ .nameTooLong) :=
    isEntered_child_of_not hp hes hmem fun h => h.leads longName rfl hfind
  refine ⟨⟨hp, hes⟩, .here hmem (by decide), fun depth => ?_⟩
  rw [ofPath_of_find hp, hchildren, checkTrees_of_isEntered_eq_error hentered, Except.map]

end Listing

end LineShell
