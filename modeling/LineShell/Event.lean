import LineShell.Numeral.Signed
import LineShell.Text.Wide

/-!
# Events

What a session does to the world outside, in the order in which it does so: texts that it writes,
command lines that it hands to the system, and notes that it makes for the log. All of these are made
of characters, as are the lines that come in; only the name of the shell, which is taken from the
settings, can hold more.
-/

namespace LineShell

/-- A note for the log. All notes are for those who look for faults. -/
inductive Note where
  /-- An alias was defined. -/
  | aliasDefined (name text : String)
  /-- An alias would have led back to itself. -/
  | aliasRejected (name text : String)
  /-- A child finished. -/
  | childFinished (commandLine : String) (code : Int)
  /-- A built-in command failed. -/
  | commandFailed (name : String)
deriving DecidableEq, Repr

namespace Note

/-- The part of the program that a note comes from. -/
def source : Note → String
  | aliasDefined .. | aliasRejected .. => "fakeshell.aliases"
  | childFinished .. => "fakeshell.modules.proc.client"
  | commandFailed .. => "fakeshell.core"

/-- The wording of a note. -/
def message : Note → String
  | aliasDefined name text => s!"alias {name}={Text.quote text}"
  | aliasRejected name text =>
      s!"alias {name}={Text.quote text} rejected: chain returns to {name}"
  | childFinished commandLine code =>
      s!"external {Text.quote commandLine} -> " ++ String.ofList (Numeral.signedDigits code)
  | commandFailed name => s!"built-in {name} failed"

end Note

/-- What a session does to the world outside. -/
inductive Event where
  /-- A text is written. -/
  | out (text : String)
  /-- A text is written as a diagnostic. -/
  | err (text : String)
  /-- A command line is handed to a shell, the common one if none is named. -/
  | call (commandLine : String) (shell : Option WideText)
  /-- A note is made for the log. -/
  | note (n : Note)
deriving DecidableEq, Repr

namespace Event

/-- The texts that are written. -/
def outputs (es : List Event) : List String :=
  es.filterMap fun
    | out text => some text
    | _ => none

/-- The diagnostics that are written. -/
def diagnostics (es : List Event) : List String :=
  es.filterMap fun
    | err text => some text
    | _ => none

/-- The command lines that are handed on, each with its shell. -/
def calls (es : List Event) : List (String × Option WideText) :=
  es.filterMap fun
    | call commandLine shell => some (commandLine, shell)
    | _ => none

@[simp] theorem outputs_append (es fs : List Event) :
    outputs (es ++ fs) = outputs es ++ outputs fs := List.filterMap_append

@[simp] theorem diagnostics_append (es fs : List Event) :
    diagnostics (es ++ fs) = diagnostics es ++ diagnostics fs := List.filterMap_append

@[simp] theorem calls_append (es fs : List Event) : calls (es ++ fs) = calls es ++ calls fs :=
  List.filterMap_append

end Event

end LineShell
