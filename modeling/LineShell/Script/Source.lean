import LineShell.Script.Syntax

/-!
# The source of a script

What is still to be read of a script, and why it cannot be read. A token that has been looked at and
not taken waits in front of the text. Diagnostics name the line, and in the extended dialect they
show it.
-/

namespace LineShell

namespace Script

/-- The operators of the language. -/
inductive Operator where
  /-- An end of line. -/
  | newline
  /-- A semicolon. -/
  | semicolon
  /-- A mark behind a clause. -/
  | clauseEnd (mark : Octets)
  /-- An ampersand. -/
  | background
  /-- Two ampersands. -/
  | andThen
  /-- A stroke. -/
  | pipe
  /-- A stroke with an ampersand. -/
  | pipeAll
  /-- Two strokes. -/
  | orElse
  /-- An opening parenthesis. -/
  | openGroup
  /-- A closing parenthesis. -/
  | closeGroup
deriving DecidableEq, Repr

/-- An operator as it is written. -/
def Operator.text : Operator → String
  | newline => "newline"
  | semicolon => ";"
  | clauseEnd mark => String.ofList mark
  | background => "&"
  | andThen => "&&"
  | pipe => "|"
  | pipeAll => "|&"
  | orElse => "||"
  | openGroup => "("
  | closeGroup => ")"

/-- A token of the language. -/
inductive Token where
  /-- A word, and how it is written. -/
  | word (w : Word) (raw : Octets)
  /-- An operator. -/
  | operator (o : Operator)
  /-- The beginning of a redirection, and how it is written; its target is the word that follows. -/
  | redirect (stream : Option Nat) (d : Direction) (raw : Octets)
  /-- The beginning of a text that follows on the next lines. -/
  | document (stream : Option Nat) (dropsTabs : Bool)
  /-- The end of the text. -/
  | finish

/-- The words that steer a script, in both dialects. -/
def commonReserved : List String :=
  ["!", "\x7b", "\x7d", "case", "do", "done", "elif", "else", "esac", "fi", "for", "if", "in",
    "then", "until", "while"]

/-- The words that steer a script. -/
def Dialect.reservedWords : Dialect → List String
  | .plain => commonReserved
  | .extended => commonReserved ++ ["[[", "]]", "function", "time"]

/-- Text between quotation marks. -/
def marked (s : String) : String := "\"" ++ s ++ "\""

/-- The reserved word that a token is. -/
def Token.reserved? (d : Dialect) : Token → Option String
  | .word _ raw =>
      let s := String.ofList raw
      if d.reservedWords.contains s then some s else none
  | _ => none

/-- A token as it is named in the diagnostics of the plain dialect. -/
def Token.name (t : Token) : String :=
  match t.reserved? .plain, t with
  | some s, _ => marked s
  | none, .word _ _ => "word"
  | none, .operator .newline => "newline"
  | none, .operator o => marked o.text
  | none, .redirect .. => "redirection"
  | none, .document .. => "redirection"
  | none, .finish => "end of file"

/-- A token as it is written. -/
def Token.text : Token → Octets
  | .word _ raw => raw
  | .operator o => o.text.toList
  | .redirect _ _ raw => raw
  | .document _ _ => "<<".toList
  | .finish => []

/-! ### Faults -/

/-- What is wrong with a script. -/
inductive SyntaxFault where
  /-- A quotation is open at the end. -/
  | openQuote (mark : Char)
  /-- The output of a script is asked for, and the mark behind the script is missing. -/
  | openBackquote
  /-- What is made of a parameter is open at the end. -/
  | openBrace
  /-- A subscript is open at the end. -/
  | openBracket
  /-- An expression is open at the end. -/
  | openArithmetic
  /-- A parenthesis is open at the end. -/
  | openParenthesis
  /-- A list of values is open at the end. -/
  | openList
  /-- A token stands where it may not; something may be due there. -/
  | unexpected (t : Token) (due : Option String)
  /-- What runs over a list is not named by a name. -/
  | badLoopName
  /-- A function is not named by a name. -/
  | badFunctionName
  /-- A test cannot be read; what is said of which lines, and what stands there, if not the end. -/
  | badTest (messages : List (Nat × String)) (near : Option Octets)

/-- Why a script cannot be read, and where. -/
structure SyntaxError where
  /-- What is wrong. -/
  fault : SyntaxFault
  /-- The number of the line. -/
  line : Nat
  /-- The line. -/
  lineText : Octets
  /-- Whether it is in a script of which the output is asked for. -/
  isNested : Bool

namespace SyntaxFault

/-- The wording of a fault in the plain dialect. -/
def plainMessage : SyntaxFault → String
  | openQuote _ => "Unterminated quoted string"
  | openBackquote => "EOF in backquote substitution"
  | openBrace => "Missing '\x7d'"
  | openBracket => "Missing '\x7d'"
  | openArithmetic => "Missing '))'"
  | openParenthesis => "end of file unexpected (expecting \")\")"
  | openList => "end of file unexpected (expecting \")\")"
  | unexpected t none => s!"{t.name} unexpected"
  | unexpected t (some due) => s!"{t.name} unexpected (expecting {due})"
  | badLoopName => "Bad for loop variable"
  | badFunctionName => "Bad function name"
  | badTest _ near => String.ofList (textOf (near.getD []))

/-- A text between the marks of the extended dialect. -/
def shown (cs : Octets) : String := "`" ++ String.ofList (textOf cs) ++ "'"

/-- What is said when a mark that is due is missing. -/
def missing (mark : Char) : String :=
  "unexpected EOF while looking for matching " ++ shown [mark]

/-- What is said of a text that ends too early. -/
def unexpectedEnd : String := "syntax error: unexpected end of file"

/-- The wordings of a fault in the extended dialect. -/
def extendedMessages : SyntaxFault → List String
  | openQuote mark => [missing mark]
  | openBackquote => [missing '`']
  | openBrace => [missing '\x7d']
  | openBracket => [missing ']']
  | openArithmetic => [missing ')']
  | openParenthesis => [missing ')']
  | openList => [missing ')']
  | unexpected .finish _ => [unexpectedEnd]
  | unexpected t _ => ["syntax error near unexpected token " ++ shown t.text]
  | badLoopName => []
  | badFunctionName => []
  | badTest _ none => [unexpectedEnd]
  | badTest _ (some near) => ["syntax error near " ++ shown near]

/-- What is said of other lines before that, in the extended dialect. -/
def earlierMessages : SyntaxFault → List (Nat × String)
  | badTest messages _ => messages
  | _ => []

/-- Whether the line is shown behind the wordings in the extended dialect. -/
def showsLine : SyntaxFault → Bool
  | unexpected .finish _ => false
  | unexpected _ _ => true
  | badLoopName => true
  | badFunctionName => true
  | badTest _ near => near.isSome
  | _ => false

end SyntaxFault

/-! ### Reading -/

/-- What is still to be read. -/
structure Source where
  /-- The dialect. -/
  dialect : Dialect
  /-- The text. -/
  rest : Octets
  /-- The number of the line. -/
  line : Nat
  /-- The line. -/
  lineText : Octets
  /-- The lines behind this one that have been taken already. -/
  taken : Nat
  /-- The number of the line before this one, and that line. -/
  passed : Nat × Octets
  /-- The token that has been looked at. -/
  waiting : Option Token
  /-- What is to be said about the script, with the numbers of the lines. -/
  warnings : List (Nat × String)

/-- Reading from a source. -/
abbrev Reading := StateT Source (Except SyntaxError)

namespace Source

/-- A text whose last line has an end. A backslash at the very end stands for itself. -/
def endLine (cs : Octets) : Octets :=
  if cs.isEmpty || cs.getLast? == some '\n' then cs
  else
    let slashes := (cs.reverse.takeWhile (· == '\\')).length
    cs ++ (if slashes % 2 = 1 then ['\\', '\n'] else ['\n'])

/-- A text as a source. In the extended dialect every line has an end. -/
def ofText (d : Dialect) (line : Nat) (cs : Octets) : Source where
  dialect := d
  rest := if d = .extended then endLine cs else cs
  line := line
  lineText := cs.takeWhile (· != '\n')
  taken := 0
  passed := (line, [])
  waiting := none
  warnings := []

end Source

namespace Reading

/-- Giving up at a line. -/
def failAt {α : Type} (line : Nat × Octets) (f : SyntaxFault) : Reading α :=
  throw ⟨f, line.1, line.2, false⟩

/-- The number of the line, and the line. -/
def here : Reading (Nat × Octets) := do
  let s ← get
  return (s.line, s.lineText)

/-- The line of a token that has been taken. In the extended dialect an end of line belongs to the
line that it ends. -/
def lineOf (t : Token) : Reading (Nat × Octets) := do
  let s ← get
  match s.dialect, t with
  | .extended, .operator .newline => return s.passed
  | _, _ => return (s.line, s.lineText)

/-- Giving up. -/
def fail {α : Type} (f : SyntaxFault) : Reading α := do
  match f with
  | .unexpected t _ => failAt (← lineOf t) f
  | _ => failAt (← here) f

/-- Whether the dialect is the extended one. -/
def isExtended : Reading Bool := return (← get).dialect = .extended

/-- The text that is still to be read. -/
def rest : Reading Octets := return (← get).rest

/-- The number of the line. -/
def line : Reading Nat := return (← get).line

/-- The source behind an end of line, before a text. -/
def nextLine (s : Source) (rest : Octets) : Source :=
  { s with
    rest := rest
    line := s.line + 1 + s.taken
    passed := (s.line, s.lineText)
    lineText := rest.takeWhile (· != '\n')
    taken := 0 }

/-- Taking a character. -/
def skip : Reading Unit := modify fun s => match s.rest with
  | [] => s
  | '\n' :: cs => nextLine s cs
  | _ :: cs => { s with rest := cs }

/-- Taking characters, as many as a number says. -/
def skipMany : Nat → Reading Unit
  | 0 => pure ()
  | n + 1 => do skip; skipMany n

/-- Giving up at the last line. -/
def failAtEnd {α : Type} (f : SyntaxFault) : Reading α := do
  skipMany (← rest).length
  fail f

/-- Taking the characters in front that pass a test. -/
def takeWhile (p : Char → Bool) : Reading Octets := do
  let cs := (← rest).takeWhile p
  skipMany cs.length
  return cs

/-- Whether the text begins so. -/
def startsWith (cs : Octets) : Reading Bool := return cs.isPrefixOf (← rest)

/-- Taking a text if it stands in front. -/
def accept (cs : Octets) : Reading Bool := do
  if ← startsWith cs then
    skipMany cs.length
    return true
  else return false

/-- What a step gives, again and again until it gives nothing, behind what it gave before. The
number bounds the steps. -/
def gatherFrom {α : Type} (step : Reading (Option α)) : Nat → List α → Reading (List α)
  | 0, before => return before.reverse
  | n + 1, before => do
      match ← step with
      | some a => gatherFrom step n (a :: before)
      | none => return before.reverse

/-- What a step gives, again and again until it gives nothing; each step takes a character. -/
def gather {α : Type} (step : Reading (Option α)) : Reading (List α) := do
  gatherFrom step ((← rest).length + 2) []

/-- What a reader gives, and what it took, as it is written. -/
def withRaw {α : Type} (r : Reading α) : Reading (α × Octets) := do
  let before ← rest
  let a ← r
  let after ← rest
  return (a, before.take (before.length - after.length))

end Reading

end Script

end LineShell
