import LineShell.Decimal.Plain
import LineShell.Decimal.Reader
import LineShell.Disk.Listing
import LineShell.Session.Command
import LineShell.Text.ShellWord

/-!
# The commands `sort` and `tree`

With numbers as arguments `sort` writes them in order; numbers that are equal keep their places.
When the first argument names a file, the whole is handed to the system, with each argument quoted
as one word.

`tree` draws the tree of a directory, the working directory if none is named.

Main statement: `perm_sortNumbers`, by which sorting neither loses nor adds a number.
-/

namespace LineShell

namespace Command

/-! ### Sorting -/

/-- What is said when there is nothing to sort. -/
def sortUsage : List String :=
  ["Usage: sort <filename> or sort <numbers...>", "Example: sort file.txt",
    "Example: sort 5 2 8 1 9"]

/-- Why words cannot be sorted as numbers. -/
inductive NumberError where
  /-- A word writes no number. -/
  | invalid (word : String)
  /-- There is no room for the notation of a number. -/
  | noRoom
deriving DecidableEq, Repr

/-- The numbers that words write, or what is wrong with the first word for which there is something
wrong. -/
def readNumbers (room : Nat) : List String → Except NumberError (List Decimal)
  | [] => .ok []
  | w :: ws => match Decimal.read? w with
    | none => .error (.invalid w)
    | some d => if d.hasRoom room then (readNumbers room ws).map (d :: ·) else .error .noRoom

/-- Numbers in order; equal ones keep their places. -/
def sortNumbers (ds : List Decimal) : List Decimal := ds.mergeSort Decimal.le

/-- Sorting neither loses nor adds a number. -/
theorem perm_sortNumbers (ds : List Decimal) : (sortNumbers ds).Perm ds := List.mergeSort_perm ds _

/-- The command line that has the system sort. -/
def sortCommandLine (args : List String) : String :=
  "sort " ++ Text.unwords (args.map Text.shellQuote)

/-- Sorting numbers. -/
def sortReply : Except NumberError (List Decimal) → Act Reply
  | .ok ds => return .text (Text.unwords ((sortNumbers ds).map Decimal.plain))
  | .error (.invalid w) => do
      Act.writeErr s!"Invalid number: {w}"
      return .nothing
  | .error .noRoom => Act.fail .noRoom

/-- Having the system sort. -/
def sortFile (args : List String) : Act Reply := do
  let c ← Act.runChild (sortCommandLine args)
  return .text (Text.dropFinalNewlines c.out)

/-- Sorting numbers or a file. -/
def runSort : List String → Act Reply
  | [] => do
      Act.writeErrAll sortUsage
      return .nothing
  | w :: ws => do
      let s ← Act.get
      let p := Path.ofString w
      if ← Act.ofExcept (Fault.path p) (s.disk.isFile p) then sortFile (w :: ws)
      else sortReply (readNumbers (← Act.room) (w :: ws))

/-- The command `sort`. -/
def sort : Command where
  manual :=
    { summary := "Sort numbers or the lines of a file"
      examples := "sort 5 2 8 1 9\nsort file.txt" }
  run _ args := runSort args

/-! ### Drawing trees -/

/-- Drawing the tree of the directory at a path. -/
def treeAt (path : String) : Act Reply := do
  let s ← Act.get
  let p := Path.ofString path
  if ← Act.ofExcept (Fault.path p) (s.disk.isDirectory p) then
    return .lines (← Act.ofExcept Fault.listing (Listing.ofPath s.disk (← Act.depth) p))
  else Act.fail (.notADirectory path)

/-- Drawing a tree. -/
def runTree : List String → Act Reply
  | [] => treeAt "."
  | [path] => treeAt path
  | args => Act.fail (.tooManyArguments "tree" 1 2 (args.length + 1))

/-- The command `tree`. -/
def tree : Command where
  manual :=
    { summary := "Show the file and directory tree"
      examples := "tree\ntree src" }
  run _ args := runTree args

end Command

end LineShell
