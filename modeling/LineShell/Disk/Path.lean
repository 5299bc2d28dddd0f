import LineShell.Text.Blank

/-!
# Paths

A path is a list of names, from the working directory or from a root. The written form of a path
keeps neither empty steps nor steps that stay in place; steps upward are kept, since where they
lead depends on links.

Where the system itself is handed a text, nothing is dropped but empty steps: a dot, or a slash at
the end, asks for a directory there. Those are the steps of a text (`stepsOf`).

Main statement: `ofString_empty`, by which the empty text and the dot are one path.
-/

namespace LineShell

/-- A path: where it begins and the names that it goes through. -/
structure Path where
  /-- The root that the path begins at, as it is written; empty for the working directory. -/
  root : String
  /-- The names, none of them empty and none of them the dot. -/
  names : List String
deriving DecidableEq, Repr

namespace Path

/-- The names between the slashes of a text, without the empty ones and the dots. -/
def namesOfChars (cs : List Char) : List String :=
  ((Chars.pieces (· == '/') cs).filter fun n => !n.isEmpty && n != ['.']).map String.ofList

/-- The path that a text writes. Two slashes in front are a root of their own; any other number is
the common root. -/
def ofString (s : String) : Path :=
  let cs := s.toList
  let slashes := (cs.takeWhile (· == '/')).length
  let root := if slashes = 0 then "" else if slashes = 2 then "//" else "/"
  ⟨root, namesOfChars cs⟩

/-- The written form of a path. -/
def text (p : Path) : String :=
  let body := "/".intercalate p.names
  if p.root.isEmpty && p.names.isEmpty then "." else p.root ++ body

/-- Whether the path begins at the working directory. -/
def isRelative (p : Path) : Bool := p.root.isEmpty

/-- The path of a name below a path. -/
def child (p : Path) (name : String) : Path := { p with names := p.names ++ [name] }

/-- Whether a text begins at the root. -/
def isAbsoluteText (s : String) : Bool := s.toList.head? == some '/'

/-- The steps that a text asks for; a slash at its end stands for a last step that stays in
place. -/
def stepsOf (s : String) : List String :=
  let cs := s.toList
  let steps := (Chars.pieces (· == '/') cs).filter fun n => !n.isEmpty
  steps.map String.ofList ++ if cs.getLast? = some '/' then ["."] else []

/-- The empty text writes the working directory, as the dot does. -/
theorem ofString_empty : ofString "" = ofString "." := by decide

end Path

end LineShell
