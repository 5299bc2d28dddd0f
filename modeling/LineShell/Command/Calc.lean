import LineShell.Calc.Evaluate
import LineShell.Session.Command

/-!
# The command `calc`

The calculator as a command. Its arguments are the words of an expression, or an expression between
a pair of quotation marks. Why an expression is turned down is written as a diagnostic, and the
command has then run all the same.

Main statement: `unquote_of_not_quoted`, by which words that do not stand between marks are taken
as they are.
-/

namespace LineShell

namespace Command

/-- Whether a text stands between a pair of equal quotation marks. -/
def isQuoted (cs : List Char) : Bool :=
  2 ≤ cs.length && cs.head? == cs.getLast? && (cs.head? == some '\'' || cs.head? == some '"')

/-- The text between two marks. -/
def inside (cs : List Char) : List Char := cs.tail.dropLast

/-- The words of an expression; one that stands between quotation marks is a single word. -/
def unquote (ws : List String) : List String :=
  let text := Chars.trim (Text.unwords ws).toList
  if isQuoted text then [String.ofList (inside text)] else ws

/-- Words that do not stand between marks are taken as they are. -/
theorem unquote_of_not_quoted {ws : List String}
    (h : isQuoted (Chars.trim (Text.unwords ws).toList) = false) : unquote ws = ws := by
  simp [unquote, h]

/-- What is said when there is no expression. -/
def calcUsage : List String :=
  ["Usage: calc <expression>", "Example: calc 2 + 2", "Supported operators: +, -, *, /, %, ^"]

/-- What is said about an expression that is turned down. -/
def calcDiagnostic : Calc.Error → String
  | .invalidCharacter => Calc.Error.invalidCharacter.message
  | e => s!"Error in calculation: {e.message}"

/-- What comes of an evaluation. -/
def calcReply : Except Calc.Failure String → Act Reply
  | .ok line => return .text line
  | .error (.rejected e) => do
      Act.writeErr (calcDiagnostic e)
      return .nothing
  | .error f => Act.fail (.calculation f)

/-- The calculator. -/
def runCalc : List String → Act Reply
  | [] => do
      Act.writeErrAll calcUsage
      return .nothing
  | ws => do calcReply (Calc.evaluate (← Act.room) (unquote ws))

/-- The command `calc`. -/
def calculator : Command where
  manual :=
    { summary := "Arbitrary-precision calculator"
      examples := "calc 2 + 2\ncalc 10 * 5\ncalc \"2 + 2 * 3\"\ncalc 2 ^ 3    # power (2 ** 3)" }
  run _ args := runCalc args

end Command

end LineShell
