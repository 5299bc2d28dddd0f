import LineShell.Disk.Path
import LineShell.Text.Quoted

/-!
# The disk

The files that a session sees: directories with files, symbolic links and directories in them, from
the root on, and one of them is the working directory.

Looking a path up goes through it name by name. A link on the way is replaced by its target, and
only so many links are followed, so that links in a circle end in an error. What is found is a
place: the names by which it is reached from the root without any link. Each way of not finding
anything is a `Disk.Fault`; most of them mean only that there is no such file.

Two things are left out. There are no permissions: whatever is there can be looked at, read and gone
into. And every name and every target of a link is a text, so that there are no names of octets that
make up no characters.
-/

namespace LineShell

/-- What a directory holds under a name. -/
inductive Node where
  /-- A file with its bytes. -/
  | file (bytes : List UInt8)
  /-- A file that can be executed, as the tool of a name. -/
  | program (tool : String)
  /-- What takes anything that is written and holds nothing. -/
  | device
  /-- A symbolic link with its target. -/
  | link (target : String)
  /-- A directory. -/
  | directory (entries : List (String × Node))
deriving Repr, BEq

/-- The names of a directory with what they stand for. -/
abbrev Entries := List (String × Node)

/-- A tree of files with a working directory. -/
structure Disk where
  /-- The names at the root. -/
  root : Entries
  /-- The names by which the working directory is reached from the root. -/
  working : List String
deriving Repr, BEq

namespace Disk

/-- The disk without any file. -/
def empty : Disk := ⟨[], []⟩

/-- The most links that are followed on one way. -/
def maxLinks : Nat := 40

/-- The longest name, in bytes. -/
def maxNameBytes : Nat := 255

/-- The longest path, in bytes. -/
def maxPathBytes : Nat := 4095

/-- Why nothing is found. -/
inductive Fault where
  /-- A name is not there. -/
  | notFound
  /-- Something that is no directory stands on the way. -/
  | notADirectory
  /-- Too many links are to be followed. -/
  | tooManyLinks
  /-- A name, or the path, is too long. -/
  | nameTooLong
  /-- The path holds the null character. -/
  | nullCharacter
deriving DecidableEq, Repr

/-- The wording of a fault at a path that is written so. -/
def Fault.messageAt (path : String) : Fault → String
  | notFound => s!"[Errno 2] No such file or directory: {Text.quote path}"
  | notADirectory => s!"[Errno 20] Not a directory: {Text.quote path}"
  | tooManyLinks => s!"[Errno 40] Too many levels of symbolic links: {Text.quote path}"
  | nameTooLong => s!"[Errno 36] File name too long: {Text.quote path}"
  | nullCharacter => "embedded null byte"

/-- The wording of a fault at a path. -/
def Fault.message (path : Path) (f : Fault) : String := f.messageAt path.text

/-- A test for a file takes every fault but an over-long name for its absence. -/
def Fault.isAbsence : Fault → Bool
  | nameTooLong => false
  | _ => true

/-! ### Places -/

/-- The node at the end of a list of names, none of which is followed as a link. -/
def nodeBelow : List String → Node → Option Node
  | [], node => some node
  | name :: names, .directory es => match es.lookup name with
    | some node => nodeBelow names node
    | none => none
  | _ :: _, _ => none

/-- The node at a place. -/
def nodeAt (d : Disk) (place : List String) : Option Node :=
  nodeBelow place (.directory d.root)

/-- The way through steps from a place, which stands with its last name first, to another. -/
abbrev Way := List String → List String → Except Fault (List String)

/-- The place where the target of a link begins, if the link lies in a place. -/
def linkStart (target : String) (gone : List String) : List String :=
  if Path.isAbsoluteText target then [] else gone

/-- The way through steps, with what is to be done at a link. The last name need not be there; it is
followed as a link if that is asked for. -/
def walkWith (d : Disk) (followLast : Bool) (atLink : Way) : Way
  | gone, [] => .ok gone
  | gone, n :: ns => match d.nodeAt gone.reverse with
    | some (.directory es) =>
        if n = "." then walkWith d followLast atLink gone ns
        else if n = ".." then walkWith d followLast atLink gone.tail ns
        else if maxNameBytes < n.utf8ByteSize then .error .nameTooLong
        else match es.lookup n with
          | none => if ns.isEmpty then .ok (n :: gone) else .error .notFound
          | some (.link target) =>
              if ns.isEmpty && !followLast then .ok (n :: gone)
              else atLink (linkStart target gone) (Path.stepsOf target ++ ns)
          | some _ => walkWith d followLast atLink (n :: gone) ns
    | some _ => .error .notADirectory
    | none => .error .notFound

/-- The way through steps with so many links left to follow. -/
def walk (d : Disk) (followLast : Bool) : Nat → Way
  | 0 => walkWith d followLast fun _ _ => .error .tooManyLinks
  | n + 1 => walkWith d followLast (walk d followLast n)

/-- The place to which steps lead, from the root or from the working directory. -/
def placeOf (d : Disk) (followLast absolute : Bool) (steps : List String) :
    Except Fault (List String) :=
  (walk d followLast maxLinks (if absolute then [] else d.working.reverse) steps).map List.reverse

/-- What a text that is handed to the system fails by, before it is looked up. -/
def checkText (s : String) : Except Fault Unit :=
  if s.toList.contains '\x00' then .error .nullCharacter
  else if maxPathBytes < s.utf8ByteSize then .error .nameTooLong
  else .ok ()

/-- The node to which steps lead. -/
def follow (d : Disk) (followLast absolute : Bool) (steps : List String) : Except Fault Node := do
  match d.nodeAt (← d.placeOf followLast absolute steps) with
  | some node => return node
  | none => throw .notFound

/-- What a path leads to. -/
def find (d : Disk) (p : Path) : Except Fault Node := do
  checkText p.text
  d.follow true (!p.isRelative) p.names

/-- What a text that is handed to the system leads to. -/
def findText (d : Disk) (s : String) : Except Fault Node := do
  checkText s
  if s.isEmpty then throw .notFound
  else d.follow true (Path.isAbsoluteText s) (Path.stepsOf s)

/-! ### Tests -/

/-- Whether a node passes a test; an absent one does not. -/
def test (d : Disk) (p : Path) (t : Node → Bool) : Except Fault Bool :=
  match d.find p with
  | .ok n => .ok (t n)
  | .error f => if f.isAbsence then .ok false else .error f

/-- Whether there is anything at a path. -/
def hasNode (d : Disk) (p : Path) : Except Fault Bool := d.test p fun _ => true

/-- Whether there is a file at a path. -/
def isFile (d : Disk) (p : Path) : Except Fault Bool :=
  d.test p fun
    | .file _ => true
    | .program _ => true
    | _ => false

/-- Whether there is a directory at a path. -/
def isDirectory (d : Disk) (p : Path) : Except Fault Bool :=
  d.test p fun
    | .directory _ => true
    | _ => false

/-- What is at a path itself, which may be a link. -/
def findItself (d : Disk) (p : Path) : Except Fault Node := do
  checkText p.text
  d.follow false (!p.isRelative) p.names

/-- Whether there is a link at a path. -/
def isLink (d : Disk) (p : Path) : Except Fault Bool :=
  match d.findItself p with
  | .ok (.link _) => .ok true
  | .ok _ => .ok false
  | .error f => if f.isAbsence then .ok false else .error f

/-- The bytes with which a file begins that can be executed. They write no text. -/
def programBytes : List UInt8 := [0x7f, 0x45, 0x4c, 0x46, 0x02, 0x01, 0x01, 0x00, 0xff]

/-- The bytes that can be read from a node. -/
def bytesOf? : Node → Option (List UInt8)
  | .file bytes => some bytes
  | .program _ => some programBytes
  | .device => some []
  | _ => none

/-- The bytes of what is at a path. -/
def read (d : Disk) (p : Path) : Option (List UInt8) := (d.find p).toOption.bind bytesOf?

/-! ### Putting files on the disk -/

/-- Entries with a node given to a name. -/
def setEntry (name : String) (node : Node) : Entries → Entries
  | [] => [(name, node)]
  | (n, old) :: rest => if n = name then (n, node) :: rest else (n, old) :: setEntry name node rest

/-- The entries of a node; only a directory has any. -/
def entriesOf : Option Node → Entries
  | some (.directory es) => es
  | _ => []

/-- Entries with a node at the end of a list of names; directories on the way are made if they are
missing. A directory that is there keeps its entries. -/
def putIn : List String → Node → Entries → Entries
  | [], _, es => es
  | [name], node, es =>
      match node, es.lookup name with
      | .directory [], some (.directory old) => setEntry name (.directory old) es
      | node, _ => setEntry name node es
  | name :: names, node, es =>
      setEntry name (.directory (putIn names node (entriesOf (es.lookup name)))) es

/-- The disk with a node at a place. -/
def putAt (d : Disk) (place : List String) (node : Node) : Disk :=
  { d with root := putIn place node d.root }

/-- The names by which a way is gone without links, whether anything is there or not: each link on
it is replaced by its target, and a step upward takes back a name. The names gone so far stand in
`gone`, the last first; the number bounds the steps. -/
def directNames (d : Disk) : Nat → List String → List String → List String
  | 0, gone, names => gone.reverse ++ names
  | _, gone, [] => gone.reverse
  | n + 1, gone, name :: names =>
      if name = "." then d.directNames n gone names
      else if name = ".." then d.directNames n gone.tail names
      else match d.nodeAt (name :: gone).reverse with
        | some (.link target) =>
            d.directNames n (linkStart target gone) (Path.stepsOf target ++ names)
        | _ => d.directNames n (name :: gone) names

/-- The place at which a node is put: a link is put beside what a link of its name leads to, and all
else in the place to which links lead. -/
def placeFor (d : Disk) (p : Path) (node : Node) : List String :=
  let start := if p.isRelative then d.working.reverse else []
  match node with
  | .link _ => d.directNames maxPathBytes start p.names.dropLast ++ (p.names.getLast?).toList
  | _ => d.directNames maxPathBytes start p.names

/-- The disk with a node at a path. -/
def put (d : Disk) (p : Path) (node : Node) : Disk := d.putAt (d.placeFor p node) node

/-- Entries without a name. -/
def removeEntry (name : String) (es : Entries) : Entries := es.filter (·.1 != name)

/-- Entries without what is at the end of a list of names. -/
def removeIn : List String → Entries → Entries
  | [], es => es
  | [name], es => removeEntry name es
  | name :: names, es => match es.lookup name with
    | some (.directory inner) => setEntry name (.directory (removeIn names inner)) es
    | _ => es

/-- The disk without what is at a place. -/
def removeAt (d : Disk) (place : List String) : Disk := { d with root := removeIn place d.root }

end Disk

end LineShell
