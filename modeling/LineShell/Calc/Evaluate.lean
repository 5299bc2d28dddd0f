import LineShell.Calc.Chain
import LineShell.Calc.Lexer
import LineShell.Decimal.Plain
import LineShell.Text.Blank

/-!
# Evaluating an expression

From the words of an expression to the line that shows it with its value. The words are joined
with single blanks, checked, and shown with each caret as two stars; the shown text is what is cut
into tokens, folded and repeated in front of the value. There is room for a notation of so many
characters and no more; what the operations need on the way is not counted.
-/

namespace LineShell

namespace Calc

/-- The characters of an expression. -/
def isExpressionChar (c : Char) : Bool := isAsciiDigit c || " +-*/%()^".toList.contains c

/-- The expression that words make: single blanks between them, and only valid characters. -/
def normalize (ws : List String) : Except Error String :=
  let text := Text.unwords (Text.words (Text.unwords ws))
  if text.isEmpty then .error .emptyExpression
  else if maxInput < text.length then .error .tooLong
  else if !text.toList.all isExpressionChar then .error .invalidCharacter
  else .ok text

/-- An expression as it is shown: a caret is two stars. -/
def shownChars (cs : List Char) : List Char :=
  cs.flatMap fun c => if c = '^' then ['*', '*'] else [c]

/-- An expression as it is shown: a caret is two stars. -/
def shown (text : String) : String := String.ofList (shownChars text.toList)

/-- The chain that a shown expression spells. -/
def chainOf (text : String) : Except Error Chain := do
  let ts := tokens text
  checkTokens ts
  Chain.ofTokens ts

/-- The shown expression and its value. -/
def calculate (ws : List String) : Except Failure (String × Decimal) := do
  let text ← (normalize ws).mapError .rejected
  let shownText := shown text
  let chain ← (chainOf shownText).mapError .rejected
  let value ← chain.value
  return (shownText, value)

/-- The line that shows an expression with its value, if there is room for the notation. -/
def answerLine (room : Nat) (shownText : String) (value : Decimal) : Except Failure String :=
  match value.plain? room with
  | some text => .ok s!"{shownText} = {text}"
  | none => .error .noRoom

/-- The line that shows the expression and its value. -/
def evaluate (room : Nat) (ws : List String) : Except Failure String := do
  let (shownText, value) ← calculate ws
  answerLine room shownText value

end Calc

end LineShell
