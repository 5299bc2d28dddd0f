import LineShell.Script.Brace
import LineShell.Script.Process

/-!
# Words and streams of commands

The fields that words of a command stand for, and the streams that its redirections give it.
-/

namespace LineShell

namespace Script

/-! ### Fields of words -/

namespace Expand

/-- The fields of a word, with the names of files that they stand for. -/
def fieldsOfWord (r : Runner) (w : Word) : Action (List Octets) := do
  let ws := if ← Action.hasFlag 'B' then Brace.expand w else [w]
  let fields ← ws.mapM fun w => do
    let f ← r.fields ⟨true, false⟩ (← tilde w) .none
    let found ← f.toList.mapM names
    return found.flatten
  return fields.flatten

/-- The fields of words. -/
def fieldsOfWords (r : Runner) (ws : List Word) : Action (List Octets) := do
  return (← ws.mapM (fieldsOfWord r)).flatten

/-- The text of a word that is neither cut nor a pattern. -/
def wholeText (r : Runner) (w : Word) : Action Octets := do text r.toEngine (← tilde w)

end Expand

/-! ### Streams -/

namespace Redirect

/-- Why a stream cannot be had. -/
inductive Fault where
  /-- A file cannot be opened; the flag tells whether it would have been made. -/
  | file (path : Octets) (f : Disk.Fault) (made : Bool)
  /-- A file is a directory. -/
  | directory (path : Octets)
  /-- A file must not be overwritten. -/
  | existing (path : Octets)
  /-- There is no such stream. -/
  | noStream (n : Octets)
  /-- A word does not stand for one file. -/
  | ambiguous (text : Octets)

/-- The wording of a fault. -/
def Fault.message (extended : Bool) : Fault → Octets
  | file path f made =>
      if extended then path ++ octetsOf ": " ++ octetsOf (Tool.faultText f)
      else
        let what := if made then "cannot create " else "cannot open "
        let missing := if made then "Directory nonexistent" else "No such file"
        let reason := match f with
          | .notFound => missing
          | .notADirectory => missing
          | f => Tool.faultText f
        octetsOf what ++ path ++ octetsOf ": " ++ octetsOf reason
  | directory path =>
      if extended then path ++ octetsOf ": Is a directory"
      else octetsOf "cannot create " ++ path ++ octetsOf ": Is a directory"
  | existing path =>
      if extended then path ++ octetsOf ": cannot overwrite existing file"
      else octetsOf "cannot create " ++ path ++ octetsOf ": File exists"
  | noStream n => n ++ octetsOf ": Bad file descriptor"
  | ambiguous text => text ++ octetsOf ": ambiguous redirect"

/-- Something that gives a stream, or cannot. -/
abbrev Opening := ExceptT Fault Action

/-- The stream that a path names. -/
def streamOfPath? (path : Octets) : Option Nat :=
  match String.ofList path with
  | "/dev/stdin" => some 0
  | "/dev/stdout" => some 1
  | "/dev/stderr" => some 2
  | s =>
      let ds := s.toList.drop 8
      if "/dev/fd/".toList.isPrefixOf path && !ds.isEmpty && ds.all isAsciiDigit then
        some (ofDigits ds)
      else none

/-- Giving a stream the channel of a number. -/
def assign (stream i : Nat) : Action Unit :=
  Action.changeShell fun sh => { sh with streams := setIn stream i sh.streams }

/-- Closing a stream. -/
def close (stream : Nat) : Action Unit :=
  Action.changeShell fun sh => { sh with streams := removeFrom stream sh.streams }

/-- Whether a direction writes to a file, which loses what it held. -/
def empties : Direction → Bool
  | .output => true
  | .overwrite => true
  | .outputAll => true
  | _ => false

/-- Whether a direction spares the files that are there, where that is asked for. -/
def spares : Direction → Bool
  | .output => true
  | .outputAll => true
  | _ => false

/-- Whether a direction makes a file that is missing. -/
def makes : Direction → Bool
  | .input => false
  | _ => true

/-- Whether a direction reads a file. -/
def reads : Direction → Bool
  | .input => true
  | .both => true
  | _ => false

/-- Whether a direction writes at the end of a file. -/
def appends : Direction → Bool
  | .append => true
  | .appendAll => true
  | _ => false

/-- Whether a direction is for diagnostics as well. -/
def takesAll : Direction → Bool
  | .outputAll => true
  | .appendAll => true
  | _ => false

/-- The place at which a file is opened, and what is there. -/
def openPlace (path : Octets) (made : Bool) : Opening (List String × Option Node) := do
  let d ← Action.disk
  let s := String.ofList (textOf path)
  let found : Except Disk.Fault (List String) := do
    Disk.checkText s
    if s.isEmpty then throw .notFound
    d.placeOf true (Path.isAbsoluteText s) (Path.stepsOf s)
  match found with
  | .error f => throw (.file path f made)
  | .ok place => match d.nodeAt place with
    | some n => return (place, some n)
    | none => if made then return (place, none) else throw (.file path .notFound made)

/-- A new channel for a file. -/
def openFile (path : Octets) (d : Direction) : Opening Nat := do
  let (place, node) ← openPlace path (makes d)
  match node with
  | some .device => Action.addChannel .device
  | some (.directory _) =>
      if makes d then throw (.directory path)
      else Action.addChannel (.file place 0 true false false)
  | node => do
      if spares d && node.isSome && (← Action.hasFlag 'C') then throw (.existing path)
      else do
        if makes d && (empties d || node.isNone) then Action.setFileOctets place []
        Action.addChannel (.file place 0 (reads d) (makes d) (appends d))

/-- The text of a word as far as it is written plainly, for diagnostics. -/
def writtenText (w : Word) : Octets :=
  w.flatMap fun
    | .text _ cs => cs
    | .parameter _ name _ _ => '$' :: name
    | _ => []

/-- The path that a word stands for. -/
def targetOf (r : Runner) (w : Word) : Opening Octets := do
  if ← Action.isExtended then
    match ← Expand.fieldsOfWord r w with
    | [path] => return path
    | _ => throw (.ambiguous (writtenText w))
  else Expand.wholeText r w

/-- Giving a stream the channel of another one. -/
def duplicate (stream : Nat) (target : Octets) : Opening Unit := do
  match ← Action.channelNumber? (ofDigits target) with
  | some i => assign stream i
  | none => throw (.noStream target)

/-- A stream for a direction where none is named. -/
def usualStream : Direction → Nat
  | .input => 0
  | .both => 0
  | .duplicateInput => 0
  | .text => 0
  | .line => 0
  | _ => 1

/-- Giving a stream what a word names: another stream, nothing, or, if it is for output, a file. -/
def duplicateWord (stream : Nat) (target : Octets) (forOutput : Bool) : Opening Unit := do
  if target = ['-'] then close stream
  else if ← Action.isExtended then
    if !target.isEmpty && target.all isAsciiDigit then duplicate stream target
    else if target.getLast? = some '-' && target.length > 1 && target.dropLast.all isAsciiDigit then
      duplicate stream target.dropLast
      close (ofDigits target.dropLast)
    else if forOutput && stream = 1 then
      let i ← openFile target .outputAll
      assign 1 i
      assign 2 i
    else throw (.ambiguous target)
  else match target with
    | [c] => if isAsciiDigit c then duplicate stream target else refuse
    | _ => refuse
where
  /-- Ending the common shell for a stream that is no digit. -/
  refuse : Opening Unit := do
    Action.complain (octetsOf "Syntax error: Bad fd number")
    throwThe Stop (.finish 2)

/-- The stream that a word names. -/
def duplicated (r : Runner) (w : Word) : Opening Octets := do
  if ← Action.isExtended then targetOf r w else Expand.wholeText r w

/-- Applying a redirection. -/
def applyOne (r : Runner) : Redirection → Opening Unit
  | .redirection stream d w => do
      let n := stream.getD (usualStream d)
      match d with
      | .text => do
          let i ← Action.addChannel (.source (← Expand.text r.toEngine w))
          assign n i
      | .line => do
          let i ← Action.addChannel (.source ((← Expand.wholeText r w) ++ ['\n']))
          assign n i
      | .duplicate => duplicateWord n (← duplicated r w) true
      | .duplicateInput => duplicateWord n (← duplicated r w) false
      | d => do
          let path ← targetOf r w
          let known := match (← Action.disk).findText (String.ofList (textOf path)) with
            | .ok _ => true
            | .error _ => false
          let i ← match streamOfPath? path with
            | some k =>
                if known then openFile path d
                else match ← Action.channelNumber? k with
                  | some i => pure i
                  | none => throw (.file path .notFound (makes d))
            | none => openFile path d
          assign n i
          if takesAll d then assign 2 i

/-- Applying redirections; whether all of them could be. -/
def applyAll (r : Runner) (rs : List Redirection) : Action Bool := do
  match ← (rs.forM (applyOne r)).run with
  | .ok _ => return true
  | .error f => do
      Action.complain (f.message (← Action.isExtended))
      return false

/-- The code of a command whose streams cannot be had. -/
def failCode : Action Nat := return if ← Action.isExtended then 1 else 2

/-- Doing something with redirections, and with the streams as they were behind it. What is done
where they cannot be had is the last action. -/
def within (r : Runner) (rs : List Redirection) (a failed : Action Unit) : Action Unit := do
  if rs.isEmpty then a
  else
    let saved := (← Action.shell).streams
    let result ← Action.attempt (do if ← applyAll r rs then a else failed)
    Action.changeShell fun sh => { sh with streams := saved }
    match result with
    | .ok _ => pure ()
    | .error s => throw s

end Redirect

end Script

end LineShell
