import LineShell.Disk.Basic

/-!
# Listing a directory

The visible names below a directory as a tree, and the tree drawn with branches. Names that begin
with a dot and a few names of generated directories are left out, with all below them. Names stand
in the order of their code points. A link is named, and not entered.

Each line of the drawing is made of units of four characters, one for each level above, and the
branch that ends in the name: the last name of a directory has a corner, the others have a tee, and
below a tee the stem goes on.

Whether a name is that of a directory to be gone into is asked at its path, and where this cannot be
found out there is no listing (`checkTrees`); nor is there one of directories that lie too deep in one
another. How deep that is depends on the machine and is given with the directory.
-/

namespace LineShell

/-- The visible names below a name. -/
inductive NameTree where
  /-- A name with the trees of the names in it. -/
  | node (name : String) (children : List NameTree)
deriving Repr, BEq

namespace NameTree

/-- The name at the root of a tree. -/
def name : NameTree → String
  | node n _ => n

end NameTree

namespace Listing

/-- The names that are left out wherever they occur. -/
def ignoredNames : List String := ["node_modules", "__pycache__", "package-lock.json"]

/-- Whether a name is shown. -/
def isVisible (name : String) : Bool :=
  !(['.'].isPrefixOf name.toList) && !ignoredNames.contains name

/-- Trees in the order of their names. -/
def sortByName (ts : List NameTree) : List NameTree := ts.mergeSort fun a b => a.name ≤ b.name

mutual

/-- The trees of the visible names in a node. -/
def children : Node → List NameTree
  | .directory es => sortByName (visible es)
  | .file _ => []
  | .program _ => []
  | .device => []
  | .link _ => []

/-- The trees of the visible names among entries, in the order of the entries. -/
def visible : List (String × Node) → List NameTree
  | [] => []
  | (name, node) :: rest =>
      if isVisible name then .node name (children node) :: visible rest else visible rest

end

/-- The branch of a name. -/
def branch (isLast : Bool) : List Char :=
  if isLast then "└── ".toList else "├── ".toList

/-- The unit that stands under a branch. -/
def stem (isLast : Bool) : List Char :=
  if isLast then "    ".toList else "│   ".toList

mutual

/-- The lines of a tree, behind the units of the levels above. -/
def drawTree (before : List Char) (isLast : Bool) : NameTree → List (List Char)
  | .node name cs =>
      (before ++ branch isLast ++ name.toList) :: drawTrees (before ++ stem isLast) cs

/-- The lines of trees that hang on one stem. -/
def drawTrees (before : List Char) : List NameTree → List (List Char)
  | [] => []
  | t :: ts => drawTree before ts.isEmpty t ++ drawTrees before ts

end

/-- The listing of a directory: the path as it is written, then the drawing. -/
def lines (root : Path) (es : Entries) : List String :=
  root.text :: (drawTrees [] (children (.directory es))).map String.ofList

/-! ### Going into directories -/

/-- Why a directory cannot be listed. -/
inductive Error where
  /-- A path cannot be followed. -/
  | path (p : Path) (f : Disk.Fault)
  /-- Too many directories lie one within another. -/
  | tooDeep
deriving DecidableEq, Repr

/-- The wording of an error. -/
def Error.message : Error → String
  | path p f => f.message p
  | tooDeep => "maximum recursion depth exceeded while calling a Python object"

/-- Whether a path is gone into: it leads to a directory, and not as a link. -/
def isEntered (d : Disk) (p : Path) : Except Error Bool :=
  match d.isDirectory p with
  | .error f => .error (.path p f)
  | .ok false => .ok false
  | .ok true => match d.isLink p with
    | .error f => .error (.path p f)
    | .ok isLink => .ok !isLink

mutual

/-- Whether a tree below a path can be gone through, with so many directories one within another at
the most. -/
def checkTree (d : Disk) (depth : Nat) (p : Path) : NameTree → Except Error Unit
  | .node name cs => match isEntered d (p.child name) with
    | .error e => .error e
    | .ok false => .ok ()
    | .ok true => match depth with
      | 0 => .error .tooDeep
      | depth + 1 => checkTrees d depth (p.child name) cs

/-- Whether trees below a path can be gone through, one after another; the first that cannot is what
there is no listing for. -/
def checkTrees (d : Disk) (depth : Nat) (p : Path) : List NameTree → Except Error Unit
  | [] => .ok ()
  | t :: ts => match checkTree d depth p t with
    | .error e => .error e
    | .ok () => checkTrees d depth p ts

end

/-- The listing of the directory at a path, gone into so many directories deep at the most. -/
def ofPath (d : Disk) (depth : Nat) (p : Path) : Except Error (List String) :=
  match d.find p with
  | .ok (.directory es) =>
      (checkTrees d depth p (children (.directory es))).map fun _ => lines p es
  | .ok _ => .error (.path p .notADirectory)
  | .error f => .error (.path p f)

end Listing

end LineShell
