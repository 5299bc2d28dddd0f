import LineShell.Disk.System
import LineShell.Numeral.Signed
import LineShell.Script.Tool.Options

/-!
# Tools

A tool is a program that is run with arguments. It looks at its input and at the disk, which it may
change, writes to streams, and comes to an exit code. Here is what tools have in common: how they
say what is wrong, how they get at their arguments, and how they read and write files.
-/

namespace LineShell

namespace Script

/-- How a tool is called. -/
structure Call where
  /-- The name by which it is called. -/
  name : Octets
  /-- The arguments. -/
  args : List Octets
  /-- The variables that it sees. -/
  environment : List (Octets × Octets)

/-- What a tool works on. -/
structure Workplace where
  /-- The disk. -/
  disk : Disk
  /-- What is left of the input. -/
  input : Octets
  /-- The size of the file that the input is, if it is one. -/
  fileSize : Option Nat
  /-- What has been written to streams, the latest first. -/
  written : List (Nat × Octets)

/-- What a tool does; it may end at once with an exit code. -/
abbrev Task := ExceptT Nat (StateM Workplace)

/-- A program, which comes to an exit code. -/
abbrev Tool := Call → Task Nat

namespace Tool

/-! ### Writing -/

/-- Writing to a stream. -/
def writeTo (stream : Nat) (cs : Octets) : Task Unit :=
  modify fun w => { w with written := (stream, cs) :: w.written }

/-- Writing to the output. -/
def write (cs : Octets) : Task Unit := writeTo 1 cs

/-- Writing a line of diagnostics. -/
def complain (cs : Octets) : Task Unit := writeTo 2 (cs ++ ['\n'])

/-- Saying something about a fault of a tool. -/
def say (c : Call) (message : Octets) : Task Unit := complain (c.name ++ octetsOf ": " ++ message)

/-- Pointing to the manual. -/
def pointToManual (c : Call) : Task Unit :=
  complain (octetsOf "Try '" ++ c.name ++ octetsOf " --help' for more information.")

/-- Ending with a code and a diagnostic. -/
def failWith {α : Type} (c : Call) (code : Nat) (message : Octets) : Task α := do
  say c message
  throw code

/-- Ending with a code and a diagnostic that points to the manual. -/
def failUsage {α : Type} (c : Call) (code : Nat) (message : Octets) : Task α := do
  say c message
  pointToManual c
  throw code

/-! ### Arguments -/

/-- The options and operands of a call. A call that is not understood ends, and so does one that asks
the tool about itself. -/
def arguments (rules : OptionRules) (c : Call) : Task Arguments := do
  match readOptions rules c.args with
  | .ok a => if a.has manualLetter || a.has versionLetter then throw 0 else return a
  | .error f => failUsage c rules.failCode f.message

/-- What a word stands for that is the value of a long option; words may be cut short as long as it is
clear what is meant. -/
def wordOf {α : Type} [BEq α] (c : Call) (option : String) (words : List (String × α))
    (value : Octets) : Task α := do
  let refuse (what : String) : Task α := do
    say c (octetsOf what ++ quoteText value ++ octetsOf " for " ++ quoteText (octetsOf option))
    complain (octetsOf "Valid arguments are:")
    let groups := words.splitBy fun a b => a.2 == b.2
    groups.forM fun g =>
      complain (octetsOf ("  - " ++ String.intercalate ", " (g.map fun w => "'" ++ w.1 ++ "'")))
    pointToManual c
    throw 1
  match words.find? fun w => w.1.toList = value with
  | some w => return w.2
  | none => match words.filter fun w => value.isPrefixOf w.1.toList with
    | [] => refuse "invalid argument "
    | w :: others => if others.all (·.2 == w.2) then return w.2 else refuse "ambiguous argument "

/-! ### Files -/

/-- A path of octets as a text. -/
def pathText (cs : Octets) : String := String.ofList (textOf cs)

/-- The wording of a fault on the disk. -/
def faultText : Disk.Fault → String
  | .notFound => "No such file or directory"
  | .notADirectory => "Not a directory"
  | .tooManyLinks => "Too many levels of symbolic links"
  | .nameTooLong => "File name too long"
  | .nullCharacter => "Invalid argument"

/-- What is at a path. -/
def node (path : Octets) : Task (Except String Node) := do
  match (← get).disk.findText (pathText path) with
  | .ok n => return .ok n
  | .error f => return .error (faultText f)

/-- Whether anything is at a path. -/
def isThere (path : Octets) : Task Bool := return (← node path).toOption.isSome

/-- Whether a node is a directory. -/
def isDirectoryNode : Node → Bool
  | .directory _ => true
  | _ => false

/-- Whether a directory is at a path. -/
def isDirectory (path : Octets) : Task Bool := do
  match ← node path with
  | .ok (.directory _) => return true
  | _ => return false

/-- Taking all that is left of the input. -/
def takeInput : Task Octets := do
  let w ← get
  set { w with input := [] }
  return w.input

/-- What is read under a name: the input for a dash, else a file; or why it cannot be. -/
def readSource (name : Octets) : Task (Except String Octets) := do
  if name = ['-'] || name = octetsOf "/dev/stdin" then return .ok (← takeInput)
  else match ← node name with
    | .error e => return .error e
    | .ok n => match Disk.bytesOf? n with
      | some bytes => return .ok (octetsOfBytes bytes)
      | none => return .error "Is a directory"

/-- The sources that operands name: the input if they name none. -/
def sourcesOf (names : List Octets) : List Octets := if names.isEmpty then [['-']] else names

/-- The place of a path on the disk, where something may be put. -/
def placeOf (path : Octets) : Task (Except String (List String)) := do
  let s := pathText path
  let d := (← get).disk
  match d.placeOf true (Path.isAbsoluteText s) (Path.stepsOf s) with
  | .ok p => return if s.isEmpty then .error (faultText .notFound) else .ok p
  | .error f => return .error (faultText f)

/-- The place of a path on the disk, where its last name is not followed as a link. -/
def ownPlaceOf (path : Octets) : Task (Except String (List String)) := do
  let s := pathText path
  let d := (← get).disk
  match d.placeOf false (Path.isAbsoluteText s) (Path.stepsOf s) with
  | .ok p => return if s.isEmpty then .error (faultText .notFound) else .ok p
  | .error f => return .error (faultText f)

/-- Changing the disk. -/
def changeDisk (f : Disk → Disk) : Task Unit := modify fun w => { w with disk := f w.disk }

/-- Writing a file; or why it cannot be written. -/
def writeFile (path : Octets) (cs : Octets) : Task (Except String Unit) := do
  match ← placeOf path with
  | .error e => return .error e
  | .ok place => match (← get).disk.nodeAt place with
    | some (.directory _) => return .error "Is a directory"
    | some .device => return .ok ()
    | _ => do
        changeDisk (·.putAt place (.file (bytesOfOctets cs)))
        return .ok ()

/-- The code of a tool that goes on behind faults: one if there was any. -/
def codeOf (faults : List Bool) : Nat := if faults.any id then 1 else 0

/-- Doing something for each of a list; the outcome is one if it failed for any. -/
def forEach (l : List Octets) (f : Octets → Task Bool) : Task Nat := do
  return codeOf ((← l.mapM f).map not)

/-- The number that digits write. -/
def number? (cs : Octets) : Option Nat :=
  if !cs.isEmpty && cs.all isAsciiDigit then some (ofDigits cs) else none

/-- A number pushed to the right end of a field. -/
def aligned (width n : Nat) : Octets :=
  let ds := Numeral.digits n
  List.replicate (width - ds.length) ' ' ++ ds

end Tool

end Script

end LineShell
