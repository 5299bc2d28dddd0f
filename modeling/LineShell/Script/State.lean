import LineShell.Disk.System
import LineShell.Numeral.Signed
import LineShell.Script.Syntax

/-!
# The state of a shell

A shell works on the disk and on channels, which it shares with its copies, and on variables,
functions, streams and settings of its own. A stream is a number that stands for a channel; a copy of
a shell has the same channels under the same numbers, so that what one reads or writes the other
does not read or write again.

An `Action` changes the state and may stop before its end: when the shell is told to leave, when a
loop or a function is left, or when a fault makes the rest of a line pointless.
-/

namespace LineShell

namespace Script

/-! ### Values -/

/-- The value of a variable. -/
inductive Value where
  /-- A text. -/
  | text (cs : Octets)
  /-- Texts by numbers, in order. -/
  | list (entries : List (Nat × Octets))
  /-- Texts by texts. -/
  | table (entries : List (Octets × Octets))
deriving DecidableEq, Repr

/-- A variable. -/
structure Variable where
  /-- Its value, if it has one. -/
  value : Option Value
  /-- Whether programs see it. -/
  exported : Bool
  /-- Whether it keeps its value. -/
  constant : Bool
  /-- Whether what it is set to is an expression. -/
  whole : Bool
  /-- Whether it is set to capitals (`some true`) or to small letters (`some false`). -/
  letters : Option Bool
deriving DecidableEq, Repr

/-- A variable that is like any other. -/
def Variable.ofText (cs : Octets) : Variable := ⟨some (.text cs), false, false, false, none⟩

/-- A variable that programs see. -/
def Variable.ofExported (cs : Octets) : Variable := ⟨some (.text cs), true, false, false, none⟩

/-- The variables with their names. -/
abbrev Variables := List (Octets × Variable)

/-- A table with an entry set; it keeps its place. -/
def setIn {α β : Type} [BEq α] (key : α) (b : β) : List (α × β) → List (α × β)
  | [] => [(key, b)]
  | (k, old) :: rest => if k == key then (k, b) :: rest else (k, old) :: setIn key b rest

/-- A table without an entry. -/
def removeFrom {α β : Type} [BEq α] (key : α) (l : List (α × β)) : List (α × β) :=
  l.filter fun e => !(e.1 == key)

/-! ### Channels -/

/-- Where the octets of a channel come from or go to. -/
inductive Channel where
  /-- They are collected; the latest stand first. -/
  | sink (written : List Octets)
  /-- They are given. -/
  | source (rest : Octets)
  /-- They are read from a file, or written to it, from a position on or at its end. -/
  | file (place : List String) (position : Nat) (reads writes appends : Bool)
  /-- There are none, and none are kept. -/
  | device
deriving DecidableEq, Repr

/-! ### Shells -/

/-- A function. -/
structure Function where
  /-- What is run. -/
  body : Stage
  /-- The name under which the shell speaks meanwhile. -/
  speaker : Octets

/-- What a shell has of its own. -/
structure Shell where
  /-- The dialect that it reads. -/
  dialect : Dialect
  /-- The name by which it has been called. -/
  name : Octets
  /-- The name under which it speaks. -/
  speaker : Octets
  /-- What its scripts are part of, as it is named in diagnostics. -/
  origin : String
  /-- The number of the line that is run. -/
  line : Nat
  /-- The variables. -/
  vars : Variables
  /-- The functions. -/
  functions : List (Octets × Function)
  /-- The other names of commands. -/
  aliases : List (Octets × Octets)
  /-- The arguments. -/
  arguments : List Octets
  /-- The outcome of the last pipeline. -/
  code : Nat
  /-- The outcome of the last script in a word. -/
  outputCode : Nat
  /-- The channels of the streams. -/
  streams : List (Nat × Nat)
  /-- The settings of one letter. -/
  flags : List Char
  /-- The settings with names. -/
  settings : List String
  /-- The variables that the functions at work have hidden, the latest first. -/
  hidden : List (List (Octets × Option Variable))
  /-- How many loops are at work. -/
  loops : Nat
  /-- Whether an outcome is only looked at. -/
  isTested : Bool
  /-- What is to be done when something happens. -/
  traps : List (Octets × Octets)
  /-- Whether the shell is a copy. -/
  isCopy : Bool
  /-- How many letters of an argument with several options have been taken. -/
  lettersTaken : Nat
  /-- How many files are being run. -/
  sources : Nat
  /-- The processes that have been run beside others, with their outcomes, the latest first. -/
  children : List (Nat × Nat)
  /-- The rights that new files do not have. -/
  mask : Nat
  /-- How deeply the scripts at work are nested in words and texts. -/
  level : Nat

/-- The shell as it begins, given its dialect, its name, what its scripts are part of, its
variables, its arguments, its streams, and its settings with letters and with names. -/
def Shell.start (d : Dialect) (name : Octets) (origin : String) (vars : Variables)
    (arguments : List Octets) (streams : List (Nat × Nat)) (flags : List Char)
    (settings : List String) : Shell where
  dialect := d
  name := name
  speaker := name
  origin := origin
  line := 1
  vars := vars
  functions := []
  aliases := []
  arguments := arguments
  code := 0
  outputCode := 0
  streams := streams
  flags := flags
  settings := settings
  hidden := []
  loops := 0
  isTested := false
  traps := []
  isCopy := false
  lettersTaken := 0
  sources := 0
  children := []
  mask := 18
  level := 0

/-- A shell with the disk and the channels. -/
structure Machine where
  /-- The shell. -/
  shell : Shell
  /-- The disk. -/
  disk : Disk
  /-- The channels. -/
  channels : Array Channel
  /-- The signals that copies of the shell have sent to it. -/
  signals : List Nat

/-- Why an action stops before its end. -/
inductive Stop where
  /-- The shell ends. -/
  | finish (code : Nat)
  /-- A signal ends the process. -/
  | killed (signal : Nat)
  /-- So many loops are left, the last of them perhaps to begin its next turn. -/
  | leave (loops : Nat) (again : Bool)
  /-- A function is left. -/
  | back (code : Nat)
  /-- The rest of the line is left out. -/
  | abandon (code : Nat)
deriving DecidableEq, Repr

/-- Something that a shell does. -/
abbrev Action := ExceptT Stop (StateM Machine)

namespace Action

/-- The shell. -/
def shell : Action Shell := return (← get).shell

/-- Changing the shell. -/
def changeShell (f : Shell → Shell) : Action Unit := modify fun m => { m with shell := f m.shell }

/-- The disk. -/
def disk : Action Disk := return (← get).disk

/-- Putting another disk in place of the disk. -/
def setDisk (d : Disk) : Action Unit := modify fun m => { m with disk := d }

/-- Whether the dialect is the extended one. -/
def isExtended : Action Bool := return (← shell).dialect = .extended

/-- Setting the outcome. -/
def setCode (code : Nat) : Action Unit := changeShell fun sh => { sh with code := code }

/-- Whether a setting of one letter is on. -/
def hasFlag (c : Char) : Action Bool := return (← shell).flags.contains c

/-- Whether a setting with a name is on. -/
def hasSetting (name : String) : Action Bool := return (← shell).settings.contains name

/-- What an action comes to: its value, or why it stopped. -/
def attempt {α : Type} (a : Action α) : Action (Except Stop α) := fun m =>
  match a.run m with
  | (r, m) => (.ok r, m)

/-! ### Writing and reading -/

/-- The channel of a stream. -/
def channelNumber? (stream : Nat) : Action (Option Nat) :=
  return (← shell).streams.lookup stream

/-- A new channel. -/
def addChannel (c : Channel) : Action Nat := do
  let m ← get
  set { m with channels := m.channels.push c }
  return m.channels.size

/-- Putting a channel in place of another. -/
def setChannel (i : Nat) (c : Channel) : Action Unit :=
  modify fun m => { m with channels := m.channels.setIfInBounds i c }

/-- The octets in a file. -/
def fileOctets (place : List String) : Action Octets :=
  return octetsOfBytes ((((← disk).nodeAt place).bind Disk.bytesOf?).getD [])

/-- Putting octets into a file. -/
def setFileOctets (place : List String) (cs : Octets) : Action Unit := do
  setDisk ((← disk).putAt place (.file (bytesOfOctets cs)))

/-- A text with another one in it from a position on; what is missing before it is filled up. -/
def overwrite (old : Octets) (position : Nat) (new : Octets) : Octets :=
  old.take position ++ List.replicate (position - old.length) '\x00' ++ new ++
    old.drop (position + new.length)

/-- Writing octets to a channel; whether it can be written to. -/
def writeChannel (i : Nat) (cs : Octets) : Action Bool := do
  match (← get).channels[i]? with
  | some (.sink written) => do
      setChannel i (.sink (cs :: written))
      return true
  | some (.file place position reads true appends) => do
      let old ← fileOctets place
      let start := if appends then old.length else position
      setFileOctets place (overwrite old start cs)
      setChannel i (.file place (start + cs.length) reads true appends)
      return true
  | some .device => return true
  | _ => return false

/-- Writing octets to a stream; whether it can be written to. -/
def write (stream : Nat) (cs : Octets) : Action Bool := do
  match ← channelNumber? stream with
  | some i => writeChannel i cs
  | none => return false

/-- Writing octets to a stream, if it can be written to. -/
def put (stream : Nat) (cs : Octets) : Action Unit := do
  let _ ← write stream cs

/-- Writing a line of diagnostics. -/
def putError (message : String) : Action Unit := put 2 (octetsOf message ++ ['\n'])

/-- What is left to be read from a channel. -/
def channelRest (i : Nat) : Action Octets := do
  match (← get).channels[i]? with
  | some (.source rest) => return rest
  | some (.file place position true _ _) => return (← fileOctets place).drop position
  | _ => return []

/-- Taking what has been read from a channel, a number of octets. -/
def advance (i n : Nat) : Action Unit := do
  match (← get).channels[i]? with
  | some (.source rest) => setChannel i (.source (rest.drop n))
  | some (.file place position reads writes appends) =>
      setChannel i (.file place (position + n) reads writes appends)
  | _ => pure ()

/-- What is left to be read from a stream. -/
def streamRest (stream : Nat) : Action Octets := do
  match ← channelNumber? stream with
  | some i => channelRest i
  | none => return []

/-- What has been collected in a channel. -/
def collected (i : Nat) : Action Octets := do
  match (← get).channels[i]? with
  | some (.sink written) => return written.reverse.flatten
  | _ => return []

/-! ### Diagnostics -/

/-- What stands before a diagnostic. -/
def opening (sh : Shell) : Octets :=
  let line := Numeral.digits sh.line
  match sh.dialect with
  | .plain =>
      sh.speaker ++ octetsOf ": " ++ line ++ octetsOf ": " ++
        (if sh.origin.isEmpty then [] else octetsOf sh.origin ++ octetsOf ": ")
  | .extended => sh.speaker ++ octetsOf ": line " ++ line ++ octetsOf ": "

/-- Saying something about a fault. -/
def complain (message : Octets) : Action Unit := do
  put 2 (opening (← shell) ++ message ++ ['\n'])

/-- Saying something about a fault of a command. -/
def complainOf (who : Octets) (message : Octets) : Action Unit := do
  let sh ← shell
  put 2 (opening { sh with origin := "" } ++ who ++ octetsOf ": " ++ message ++ ['\n'])

/-- Ending the shell for a fault, with a code that depends on the dialect. -/
def stopFor {α : Type} (message : Octets) (plainCode extendedCode : Nat) : Action α := do
  complain message
  if ← isExtended then throw (.finish extendedCode) else throw (.finish plainCode)

/-! ### Variables -/

/-- The variable of a name. -/
def variableNamed? (name : Octets) : Action (Option Variable) :=
  return (← shell).vars.lookup name

/-- Putting a variable in place. -/
def putVariable (name : Octets) (v : Variable) : Action Unit :=
  changeShell fun sh => { sh with vars := setIn name v sh.vars }

/-- Removing a variable. -/
def removeVariable (name : Octets) : Action Unit :=
  changeShell fun sh => { sh with vars := removeFrom name sh.vars }

/-- The text of a value: of a list its first, of a table that of zero. -/
def textOfValue : Value → Option Octets
  | .text cs => some cs
  | .list entries => entries.lookup 0
  | .table entries => entries.lookup ['0']

/-- The text of a variable, if it has one. -/
def textOf? (name : Octets) : Action (Option Octets) :=
  return ((← variableNamed? name).bind Variable.value).bind textOfValue

/-- Letters as a variable wants them. -/
def recased (v : Variable) (cs : Octets) : Octets :=
  match v.letters with
  | some true => cs.map Char.toUpper
  | some false => cs.map Char.toLower
  | none => cs

/-- A list with an entry in order. -/
def setInOrder (key : Nat) (cs : Octets) : List (Nat × Octets) → List (Nat × Octets)
  | [] => [(key, cs)]
  | (k, old) :: rest =>
      if k < key then (k, old) :: setInOrder key cs rest
      else if k = key then (key, cs) :: rest
      else (key, cs) :: (k, old) :: rest

/-- A value with its first text replaced. -/
def valueWithText (old : Option Value) (cs : Octets) : Value :=
  match old with
  | some (.list entries) => .list (setInOrder 0 cs entries)
  | some (.table entries) => .table (setIn ['0'] cs entries)
  | _ => .text cs

/-- Saying that a variable keeps its value, and stopping. -/
def refuseConstant {α : Type} (name : Octets) : Action α := do
  if ← isExtended then
    complain (name ++ octetsOf ": readonly variable")
    throw (.abandon 1)
  else
    complain (name ++ octetsOf ": is read only")
    throw (.finish 2)

/-- Setting a variable to a text. Where the number of the next argument with options is set, no
letter of it has been taken. -/
def setText (name cs : Octets) : Action Unit := do
  let v := (← variableNamed? name).getD (Variable.ofText cs)
  if v.constant then refuseConstant name
  else
    let exported := v.exported || (← hasFlag 'a')
    putVariable name
      { v with value := some (valueWithText v.value (recased v cs)), exported := exported }
    if name = "OPTIND".toList then changeShell fun sh => { sh with lettersTaken := 0 }

/-- The text of a variable; empty if it has none. -/
def textOf (name : String) : Action Octets := return (← textOf? name.toList).getD []

/-- The variables that programs see. -/
def environment : Action (List (Octets × Octets)) :=
  return (← shell).vars.filterMap fun (name, v) =>
    if v.exported then (v.value.bind textOfValue).map (name, ·) else none

/-! ### Copies -/

/-- The signal to a process whose output nobody reads. -/
def pipeSignal : Nat := 13

/-- The outcome of a copy of the shell. A signal to the shell ends its copies as well, but for the one
that tells a copy that nobody reads its output. -/
def codeAfter (r : Except Stop Unit) : Action Nat := do
  match r with
  | .ok _ => return (← shell).code
  | .error (.finish code) => return code
  | .error (.back code) => return code
  | .error (.abandon code) => return code
  | .error (.leave _ _) => return (← shell).code
  | .error (.killed signal) =>
      if signal = pipeSignal then return 128 + signal else throw (.killed signal)

/-- What happens in a copy of the shell; the disk and the channels remain as they are left, and the
outcome. The last argument is what a copy does before it ends. -/
def inCopy (atEnd : Action Unit) (a : Action Unit) : Action Unit := do
  let sh ← shell
  let working := (← disk).working
  changeShell fun sh => { sh with traps := [], loops := 0, isCopy := true }
  setCode (← codeAfter (← attempt a))
  let code := (← shell).code
  let code ← match ← attempt atEnd with
    | .error (.finish other) => pure other
    | _ => pure code
  changeShell fun _ => { sh with code := code }
  setDisk { (← disk) with working := working }

/-- What an action writes to the output, in a copy of the shell, and the outcome. -/
def captured (atEnd : Action Unit) (a : Action Unit) : Action Octets := do
  let i ← addChannel (.sink [])
  inCopy atEnd (do
    changeShell fun sh => { sh with streams := setIn 1 i sh.streams }
    a)
  collected i

end Action

end Script

end LineShell
