import LineShell.Child
import LineShell.Script.Evaluate
import LineShell.Text.Lines

/-!
# Running command lines

A command line is run by the program that is named as the shell: it is called with an option that says
that a command follows, and with the command line. That program need not be a shell.

`runUnder` is one world outside, with a disk in memory and the tools of this library: a session can be
driven and tested in it. What is stated of sessions is stated for all worlds and does not rest on this one.

Main statement: `runUnder_of_null`, by which a command line with the null character is refused and
the disk is left as it is.
-/

namespace LineShell

namespace Script

/-- Octets as a text, with all ends of line alike. -/
def outputText (cs : Octets) : String := String.ofList (Chars.unifyNewlines (textOf cs))

/-- The shell that runs command lines unless another is named. -/
def commonShell : String := "/bin/sh"

/-- Whether a text holds the null character. -/
def holdsNull (s : String) : Bool := s.toList.contains '\x00'

/-- The bytes from which on a command line is too long. -/
def maxCommandBytes : Nat := 131072

/-! ### Finding the shell -/

/-- The tool of the program at a path. If there is none, it may be that there is nothing (`none`), or
that there is something that does not serve as the shell of a name. -/
def programAt (d : Disk) (shell path : String) : Except (Option Child.Refusal) String :=
  match d.findText path with
  | .ok (.program tool) => .ok tool
  | .ok _ => .error (some (.notExecutable shell))
  | .error .notFound => .error none
  | .error f => .error (some (.unreachable shell f))

/-- The tool of the first program of a name in directories. Of what does not serve, the first counts;
what is no directory does not. -/
def programIn (d : Disk) (shell : String) :
    Option Child.Refusal → List String → Except (Option Child.Refusal) String
  | refusal, [] => .error refusal
  | refusal, directory :: rest => match programAt d shell (directory ++ "/" ++ shell) with
    | .ok tool => .ok tool
    | .error none => programIn d shell refusal rest
    | .error (some (.unreachable _ .notADirectory)) => programIn d shell refusal rest
    | .error (some r) => programIn d shell (some (refusal.getD r)) rest

/-- The tool of the program that is named as the shell. -/
def findShell (d : Disk) (shell : String) : Except (Option Child.Refusal) String :=
  if shell.toList.contains '/' then programAt d shell shell
  else programIn d shell none Disk.searchPath

/-! ### Running it -/

/-- The directories of programs, as programs see them. -/
def pathText : String :=
  "/usr/local/bin:/usr/local/sbin:/usr/local/bin:/usr/sbin:/usr/bin:/sbin:/bin"

/-- The variables that the shell sees. -/
def environment : List (Octets × Octets) :=
  [("HOME", "/root"), ("LC_ALL", "C"), ("PATH", pathText)].map fun (name, value) =>
    (octetsOf name, octetsOf value)

/-- Everything as it is before a command line is run: nothing is there to be read. -/
def machineOn (d : Disk) : Machine where
  shell := Shell.start .plain [] "" [] [] [(0, 0), (1, 1), (2, 2)] [] []
  disk := d
  channels := #[.source [], .sink [], .sink []]
  signals := []

/-- What runs the shell itself: a signal that ends it is not told of. -/
def outermost : Runner :=
  let r := Evaluate.runner Evaluate.maxDepth
  { r with shell := fun d c flags settings text => do
      match ← Evaluate.runShell r d c flags settings text with
      | .ok code => return code
      | .error signal => throw (.killed signal) }

/-- How a process ends: with a code, or by a signal, which counts as a negative code. -/
def codeOf : Except Stop Nat → Int
  | .ok code => code
  | .error (.killed signal) => -signal
  | .error (.finish code) => code
  | .error _ => 0

/-- Running a command line by the tool of a program that is named as the shell. -/
def runBy (tool shell : String) (d : Disk) (commandLine : String) : Child.Reply × Disk :=
  let c : Call := ⟨octetsOf shell, [octetsOf "-c", octetsOf commandLine], environment⟩
  let a : Action (Int × Octets × Octets) := do
    let code := codeOf (← Action.attempt (Process.run outermost tool c))
    return (code, ← Action.collected 1, ← Action.collected 2)
  match a.run (machineOn d) with
  | (.ok (code, out, err), m) => (.finished code (outputText out) (outputText err), m.disk)
  | (.error _, m) => (.finished 0 "" "", m.disk)

/-- Running a command line under a shell of a name. -/
def runUnderName (name : String) (d : Disk) (commandLine : String) : Child.Reply × Disk :=
  if holdsNull commandLine || holdsNull name then (.refused .nullCharacter, d)
  else match findShell d name with
    | .error none => (.shellMissing, d)
    | .error (some r) => (.refused r, d)
    | .ok tool =>
        if maxCommandBytes ≤ (octetsOf commandLine).length then (.refused (.tooLong name), d)
        else runBy tool name d commandLine

/-- Whether a code point can be part of a file name: some surrogates stand for octets that are no part of
a character. -/
def isNamePart : CodePoint → Bool
  | .char _ => true
  | .surrogate offset => 0x480 ≤ offset.val && offset.val < 0x500

/-- Running a command line under a shell, the common one if none is named. No file of the disk has a
name with an octet that is no part of a character. -/
def runUnder (shell : Option WideText) (d : Disk) (commandLine : String) : Child.Reply × Disk :=
  let name := shell.getD commonShell
  match name.toString? with
  | some name => runUnderName name d commandLine
  | none =>
      if !name.codePoints.all isNamePart then (.refused (.notEncodable name), d)
      else if holdsNull commandLine then (.refused .nullCharacter, d)
      else (.shellMissing, d)

/-- A command line with the null character is refused, and the disk is left as it is. -/
theorem runUnder_of_null {shell : Option WideText} {d : Disk} {commandLine : String}
    (h : holdsNull commandLine = true) :
    ∃ r, runUnder shell d commandLine = (.refused r, d) := by
  simp only [runUnder, runUnderName, h, Bool.true_or, if_true]
  split
  · exact ⟨_, rfl⟩
  · split
    · exact ⟨_, rfl⟩
    · exact ⟨_, rfl⟩

end Script

end LineShell
