import LineShell.Disk.Basic
import LineShell.Numeral.Signed
import LineShell.Text.Blank
import LineShell.Text.Wide

/-!
# Child processes

A command line that the shell does not handle itself goes to a child process. What the system
answers is a `Reply`; `Child.ofReply` makes of it either a child that ended well, with what it
wrote, or the reason why there is none.

The exit code 127 is how a shell says that it found no such command.

Main statement: `ofReply_eq_ok_iff`, by which a child is returned exactly when one finished with
the code zero.
-/

namespace LineShell

/-- A child process that has finished. -/
structure Child where
  /-- The command line that it ran. -/
  commandLine : String
  /-- Its exit code; a negative one is the signal that ended it. -/
  code : Int
  /-- What it wrote. -/
  out : String
  /-- What it wrote as diagnostics. -/
  err : String
deriving DecidableEq, Repr

namespace Child

/-- Why the system refuses to start a child. -/
inductive Refusal where
  /-- The command line, or the name of the shell, holds the null character. -/
  | nullCharacter
  /-- The name of the shell has no encoding. -/
  | notEncodable (shell : WideText)
  /-- The shell may not be executed. -/
  | notExecutable (shell : String)
  /-- The way to the shell cannot be followed. -/
  | unreachable (shell : String) (f : Disk.Fault)
  /-- The command line is too long to be handed to the shell. -/
  | tooLong (shell : String)
deriving DecidableEq, Repr

/-- The wording of a refusal. -/
def Refusal.message : Refusal → String
  | nullCharacter => "embedded null byte"
  | notEncodable shell => shell.encodingMessage
  | notExecutable shell => s!"[Errno 13] Permission denied: {Text.quote shell}"
  | unreachable shell f => f.messageAt shell
  | tooLong shell => s!"[Errno 7] Argument list too long: {Text.quote shell}"

/-- What the system answers when a command line is to be run. -/
inductive Reply where
  /-- The child finished. -/
  | finished (code : Int) (out err : String)
  /-- The shell that is to run it does not exist. -/
  | shellMissing
  /-- It was interrupted from the keyboard. -/
  | interrupted
  /-- It was not started. -/
  | refused (r : Refusal)
deriving DecidableEq, Repr

/-- Why there is no child that ended well. -/
inductive Error where
  /-- There is no such command, as the shell said, or no shell to say so. -/
  | unknown (word : String) (child : Option Child)
  /-- The child ended with another code than zero. -/
  | failed (word : String) (child : Child)
  /-- The child was not started. -/
  | refused (r : Refusal)
  /-- The child was interrupted from the keyboard. -/
  | interrupted
deriving DecidableEq, Repr

/-- The code by which a shell says that there is no such command. -/
def notFoundCode : Int := 127

/-- What is said about a child that failed: its diagnostics, or else its code. -/
def detail (c : Child) : String :=
  let diagnostics := Text.trim c.err
  if diagnostics.isEmpty then "exit status " ++ String.ofList (Numeral.signedDigits c.code)
  else diagnostics

/-- The wording of an error. -/
def Error.message : Error → String
  | unknown word _ => s!"Unknown command: {word}"
  | failed word c => s!"{word}: {c.detail}"
  | refused r => r.message
  | interrupted => ""

/-- The finished child of an error, if there is one. -/
def Error.child? : Error → Option Child
  | unknown _ c => c
  | failed _ c => some c
  | refused _ => none
  | interrupted => none

/-- The finished child that an answer tells of. -/
def Reply.child? (commandLine : String) : Reply → Option Child
  | .finished code out err => some ⟨commandLine, code, out, err⟩
  | _ => none

/-- The child that ended well, or why there is none. -/
def ofReply (commandLine : String) : Reply → Except Error Child
  | .finished code out err =>
      let c : Child := ⟨commandLine, code, out, err⟩
      if code = notFoundCode then .error (.unknown (Text.firstWord commandLine) (some c))
      else if code = 0 then .ok c
      else .error (.failed (Text.firstWord commandLine) c)
  | .shellMissing => .error (.unknown (Text.firstWord commandLine) none)
  | .interrupted => .error .interrupted
  | .refused r => .error (.refused r)

/-- A child is returned exactly when one finished with the code zero. -/
theorem ofReply_eq_ok_iff {commandLine : String} {r : Reply} {c : Child} :
    ofReply commandLine r = .ok c ↔
      r = .finished 0 c.out c.err ∧ c.commandLine = commandLine ∧ c.code = 0 := by
  obtain ⟨l, code, out, err⟩ := c
  cases r with
  | finished k o e =>
      by_cases h : k = notFoundCode
      · have h0 : k ≠ 0 := by rw [h]; decide
        simp [ofReply, h]
        grind
      · by_cases h0 : k = 0
        · simp [ofReply, h0, notFoundCode]
          grind
        · simp [ofReply, h, h0]
  | shellMissing => simp [ofReply]
  | interrupted => simp [ofReply]
  | refused r => simp [ofReply]

end Child

end LineShell
