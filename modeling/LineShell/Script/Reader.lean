import LineShell.Script.Lexer

/-!
# Reading scripts

From tokens to a script. A list of items ends at the end of the text, at a parenthesis that closes a
group, or at a reserved word that goes on with a command made of scripts; every operator but the
semicolon, the ampersand and the end of line needs a pipeline behind it.

A script is read line by line: what stands on the first line is run before the second is looked at.
-/

namespace LineShell

namespace Script

namespace Grammar

/-! ### Tokens -/

/-- The reserved words that end a list of items. -/
def closingWords : List String :=
  ["\x7d", "do", "done", "elif", "else", "esac", "fi", "then"]

/-- Whether a token ends a list of items. -/
def closes (d : Dialect) (t : Token) : Bool :=
  match t with
  | .operator .closeGroup => true
  | .operator (.clauseEnd _) => true
  | t => (t.reserved? d).any closingWords.contains

/-- The reserved word that stands next. -/
def reserved (r : Readers) : Reading (Option String) := do
  return (← Lexer.peek r).reserved? (← get).dialect

/-- Taking the token that stands next. -/
def take (r : Readers) : Reading Unit := do
  let _ ← Lexer.next r

/-- Taking ends of line, if any stand next. -/
def skipNewlines (r : Readers) : Reading Unit := do
  let _ ← Reading.gather (do
    match ← Lexer.peek r with
    | .operator .newline => some <$> take r
    | _ => return none)

/-- A token where reserved words have no meaning. -/
def withoutMeaning (d : Dialect) : Token → Token
  | .word w raw => if d = .plain then .word w [] else .word w raw
  | t => t

/-- Giving up at the token that stands next. -/
def failHere {α : Type} (r : Readers) (due : Option String) : Reading α := do
  Reading.fail (.unexpected (← Lexer.peek r) due)

/-- Giving up at the token that stands next, where reserved words have no meaning. -/
def failAtWord {α : Type} (r : Readers) (due : Option String) : Reading α := do
  Reading.fail (.unexpected (withoutMeaning (← get).dialect (← Lexer.peek r)) due)

/-- Taking a reserved word that is due. -/
def expectReserved (r : Readers) (name : String) : Reading Unit := do
  if (← reserved r) = some name then take r else failHere r (some (marked name))

/-- Taking an operator that is due. -/
def expectOperator (r : Readers) (o : Operator) : Reading Unit := do
  match ← Lexer.peek r with
  | .operator p => if p = o then take r else failHere r (some (marked o.text))
  | _ => failHere r (some (marked o.text))

/-- Taking an operator if it stands next. -/
def acceptOperator (r : Readers) (o : Operator) : Reading Bool := do
  match ← Lexer.peek r with
  | .operator p =>
      if p = o then
        take r
        return true
      else return false
  | _ => return false

/-! ### Redirections -/

/-- The target of a redirection. -/
def target (r : Readers) : Reading (Word × Octets) := do
  match ← Lexer.peek r with
  | .word w raw => do
      take r
      return (w, raw)
  | _ => failHere r none

/-- The next redirection, if one stands next. -/
def redirection? (r : Readers) : Reading (Option Redirection) := do
  match ← Lexer.peek r with
  | .redirect stream d _ => do
      take r
      return some (.redirection stream d (← target r).1)
  | .document stream dropsTabs => do
      take r
      let (_, raw) ← target r
      let (mark, quoted) := Lexer.unquotedRaw raw
      let text ← Lexer.document dropsTabs mark
      let w ← if quoted then pure (Word.ofQuoted text) else Lexer.documentParts r text
      return some (.redirection (some (stream.getD 0)) .text w)
  | _ => return none

/-- The redirections that stand next. -/
def redirections (r : Readers) : Reading (List Redirection) := Reading.gather (redirection? r)

/-! ### Commands made of scripts -/

/-- The items between words or marks; there is one at least, unless the text ends. -/
def block (r : Readers) : Reading (List Item) := do
  skipNewlines r
  let t ← Lexer.peek r
  if closes (← get).dialect t then failHere r none else r.items

/-- The rest of a choice, behind its first word. The number bounds the conditions. -/
def choice (r : Readers) : Nat → Reading Command
  | 0 => failHere r none
  | n + 1 => do
      let condition ← block r
      expectReserved r "then"
      let body ← block r
      match ← reserved r with
      | some "elif" => do
          take r
          let inner ← choice r n
          return .choice condition body
            [.item false [.link none false false [.stage inner []]]]
      | some "else" => do
          take r
          let otherwise ← block r
          expectReserved r "fi"
          return .choice condition body otherwise
      | _ => do
          expectReserved r "fi"
          return .choice condition body []

/-- The body of a loop. -/
def loopBody (r : Readers) : Reading (List Item) := do
  expectReserved r "do"
  let body ← block r
  expectReserved r "done"
  return body

/-- The body of a loop over values, which may stand between braces in the extended dialect. -/
def eachBody (r : Readers) : Reading (List Item) := do
  if (← Reading.isExtended) && (← reserved r) == some "\x7b" then
    take r
    let body ← block r
    expectReserved r "\x7d"
    return body
  else loopBody r

/-- The words that stand next. -/
def words (r : Readers) : Reading (List Word) :=
  Reading.gather (do
    match ← Lexer.peek r with
    | .word w _ => do
        take r
        return some w
    | _ => return none)

/-- The name of what runs over values. -/
def loopName (r : Readers) : Reading Octets := do
  match ← Lexer.peek r with
  | .word w raw => do
      if (← Reading.isExtended) || (Word.bareText? w).any isName then
        take r
        return raw
      else Reading.fail .badLoopName
  | _ => if ← Reading.isExtended then failHere r none else Reading.fail .badLoopName

/-- The values of a loop, none if they are not named. -/
def loopValues (r : Readers) : Reading (Option (List Word)) := do
  skipNewlines r
  if (← reserved r) = some "in" then
    take r
    let ws ← words r
    match ← Lexer.peek r with
    | .operator .semicolon => do
        take r
        return some ws
    | .operator .newline => do
        take r
        return some ws
    | _ => failHere r none
  else
    let _ ← acceptOperator r .semicolon
    return none

/-- A loop over values, behind its first word. -/
def each (r : Readers) : Reading Command := do
  let line ← Reading.line
  let name ← loopName r
  let values ← loopValues r
  skipNewlines r
  return .each line name values (← eachBody r)

/-- The parts of an expression up to a semicolon, which is taken. -/
def upToSemicolon (r : Readers) : Reading Word := do
  let w ← r.parts (.braced true [';'])
  Reading.skip
  return w

/-- A loop that counts, behind its two parentheses. -/
def count (r : Readers) : Reading Command := do
  let line ← Reading.line
  let start ← upToSemicolon r
  let condition ← upToSemicolon r
  let step ← r.parts .parentheses
  let _ ← Reading.accept [')']
  let _ ← acceptOperator r .semicolon
  skipNewlines r
  return .count line start condition step (← eachBody r)

/-- The patterns of a clause, the first of which has been taken, and the parenthesis behind them.
The number bounds the patterns. -/
def patternsFrom (r : Readers) : Nat → List Word → Reading (List Word)
  | 0, before => return before.reverse
  | n + 1, before => do
      match ← Lexer.peek r with
      | .operator .pipe => do
          take r
          match ← Lexer.next r with
          | .word w _ => patternsFrom r n (w :: before)
          | t => Reading.fail (.unexpected t none)
      | .operator .closeGroup => do
          take r
          return before.reverse
      | _ => failAtWord r (some (marked ")"))

/-- The first pattern of a clause. In the plain dialect whatever stands there is one. -/
def firstPattern (r : Readers) : Reading Word := do
  let t ← Lexer.peek r
  match t with
  | .word w _ => do
      take r
      return w
  | t =>
      if ← Reading.isExtended then failHere r none
      else do
        take r
        return Word.ofQuoted t.text

/-- The mark behind a clause; none stands before the end of the command. -/
def clauseMark (r : Readers) : Reading Octets := do
  match ← Lexer.peek r with
  | .operator (.clauseEnd mark) => do
      take r
      return mark
  | _ =>
      if (← reserved r) = some "esac" then return []
      else failHere r (some (marked ";;"))

/-- The next clause, if there is one. -/
def clause? (r : Readers) : Reading (Option Clause) := do
  skipNewlines r
  if (← reserved r) = some "esac" then return none
  else
    let _ ← acceptOperator r .openGroup
    let first ← firstPattern r
    let patterns ← patternsFrom r ((← Reading.rest).length + 1) [first]
    let body ← r.items
    return some (.clause patterns body (← clauseMark r))

/-- A command that chooses by patterns, behind its first word. -/
def cases (r : Readers) : Reading Command := do
  let line ← Reading.line
  match ← Lexer.peek r with
  | .word w _ => do
      take r
      skipNewlines r
      expectReserved r "in"
      let clauses ← Reading.gather (clause? r)
      expectReserved r "esac"
      return .cases line w clauses
  | _ => failHere r (some "word")

/-! ### Tests -/

/-- The tests of one operand. -/
def isUnary (op : Octets) : Bool :=
  match op with
  | ['-', c] => "abcdefghknoprstuvwxzGLNORS".toList.contains c
  | _ => false

/-- The tests of two operands that are words. -/
def isBinary (op : Octets) : Bool :=
  ["=", "==", "!=", "=~", "-eq", "-ne", "-lt", "-le", "-gt", "-ge", "-nt", "-ot",
    "-ef"].contains (String.ofList op)

/-- The characters that end the right side of a comparison. -/
def operandStops (op : Octets) : List Char :=
  if op = "=~".toList then [' ', '\t', '\n'] else [' ', '\t', '\n', ')', '&', '|', ';']

/-- A token as it is named in what is said of a test. -/
def shownInTest : Token → String
  | .finish => SyntaxFault.shown "EOF".toList
  | t => SyntaxFault.shown t.text

/-- A fault of a test at a token that has been taken and at the text before it; what is said of it
first, of the line of the token or of another one. -/
def failTest {α : Type} (line : Option Nat) (message : String) (t : Token) (before : Octets) :
    Reading α := do
  let place ← Reading.lineOf t
  let near := match t with
    | .finish => none
    | .operator .newline => some before
    | t => some t.text
  let said := if message.isEmpty then [] else [(line.getD place.1, message)]
  Reading.failAt place (.badTest said near)

/-- A fault of a test at a token that is no operand. -/
def failOperand {α : Type} (kind : String) (t : Token) (before : Octets) : Reading α :=
  failTest none ("unexpected argument " ++ shownInTest t ++ " to conditional " ++ kind ++ " operator")
    t before

/-- The operand of a test, behind its operator. -/
def operand (r : Readers) (kind : String) (op : Octets) : Reading Word := do
  let t ← Lexer.next r
  match t with
  | .word w raw => if raw = "]]".toList then failOperand kind t op else return w
  | t => failOperand kind t op

/-- The right side of a comparison, behind its operator. -/
def comparand (r : Readers) (op : Octets) : Reading Word := do
  let _ ← Reading.takeWhile isBlank
  let (w, raw) ← Reading.withRaw (r.parts (.braced false (operandStops op)))
  if raw.isEmpty then failOperand "binary" (← Lexer.next r) op
  else if raw = "]]".toList then failOperand "binary" (.word w raw) op
  else return w

/-- What is said of a test whose operator is missing. -/
def operatorMissing : String := "conditional binary operator expected"

/-- The rest of a test that a word begins, which is no operator of one operand. -/
def afterWord (r : Readers) (w : Word) (raw : Octets) : Reading Test := do
  let t ← Lexer.peek r
  match t with
  | .word _ op =>
      if op = "]]".toList then return .word w
      else
        take r
        if ["=", "==", "!=", "=~"].contains (String.ofList op) then
          return .binary op w (← comparand r op)
        else if isBinary op then return .binary op w (← operand r "binary" op)
        else failTest none operatorMissing t raw
  | .redirect _ _ op => do
      take r
      if op = ['<'] || op = ['>'] then return .binary op w (← operand r "binary" op)
      else failTest none ("unexpected token " ++ shownInTest t ++ ", " ++ operatorMissing) t raw
  | .operator .andThen => return .word w
  | .operator .orElse => return .word w
  | .operator .closeGroup => return .word w
  | t => do
      take r
      failTest none ("unexpected token " ++ shownInTest t ++ ", " ++ operatorMissing) t raw

/-- What a reader of a test in parentheses gives; of its faults it is said too, of a line, that a
parenthesis is due. -/
def inParentheses (line : Nat) (r : Reading Test) : Reading Test :=
  fun s => match r.run s with
    | .error ⟨.badTest said near, l, text, nested⟩ =>
        .error ⟨.badTest (said ++ [(line, "expected `)'")]) near, l, text, nested⟩
    | x => x

/-- The parenthesis that is due in a test that begins at a line. -/
def closeParenthesis (r : Readers) (line : Nat) : Reading Unit := do
  let t ← Lexer.next r
  match t with
  | .operator .closeGroup => pure ()
  | .word _ raw =>
      let named := if raw = "]]".toList then "unexpected token `]]', " else ""
      failTest (some line) (named ++ "expected `)'") t []
  | t => failTest (some line) ("unexpected token " ++ shownInTest t ++ ", expected `)'") t []

mutual

/-- A test without connectives, in a test that begins at a line. The number bounds the nesting. -/
def testTerm (r : Readers) (line : Nat) : Nat → Reading Test
  | 0 => failHere r none
  | n + 1 => do
      let t ← Lexer.next r
      match t with
      | .word w raw =>
          if raw = ['!'] then return .not (← testTerm r line n)
          else if raw = "]]".toList then failTest none "" t []
          else if isUnary raw then return .unary raw (← operand r "unary" raw)
          else afterWord r w raw
      | .operator .openGroup => do
          let inner ← inParentheses line (testOr r line n)
          closeParenthesis r line
          return inner
      | .operator .newline => testTerm r line n
      | t => failTest none ("unexpected token " ++ shownInTest t ++ " in conditional command") t []

/-- Tests that are all to succeed, in a test that begins at a line. -/
def testAnd (r : Readers) (line : Nat) : Nat → Reading Test
  | 0 => failHere r none
  | n + 1 => do
      let t ← testTerm r line n
      skipNewlines r
      if ← acceptOperator r .andThen then return .and t (← testAnd r line n) else return t

/-- Tests of which one is to succeed, in a test that begins at a line. -/
def testOr (r : Readers) (line : Nat) : Nat → Reading Test
  | 0 => failHere r none
  | n + 1 => do
      let t ← testAnd r line n
      if ← acceptOperator r .orElse then return .or t (← testOr r line n) else return t

end

/-- A test, behind its two brackets. -/
def test (r : Readers) : Reading Command := do
  let line ← Reading.line
  let test ← testOr r line (4 * (← Reading.rest).length + 4)
  let t ← Lexer.next r
  match t with
  | .word _ raw =>
      if raw = "]]".toList then return .test line test
      else failTest (some line) "syntax error in conditional expression" t []
  | .finish => failTest (some line) "unexpected EOF while looking for `]]'" t []
  | t =>
      let message := "syntax error in conditional expression: unexpected token " ++ shownInTest t
      failTest (some line) message t []

/-! ### Commands -/

/-- The expression of a command between two pairs of parentheses, behind the first of them; none if
it is a group in a group. -/
def calculation? (r : Readers) : Reading (Option Word) := do
  let saved ← get
  Reading.skip
  let w ← r.parts .parentheses
  if ← Reading.accept [')'] then return some w
  else
    set saved
    return none

/-- A command in parentheses, the first of which is taken. -/
def group (r : Readers) : Reading Command := do
  let line ← Reading.line
  let double ← Reading.startsWith ['(']
  let w? ← if double && (← Reading.isExtended) then calculation? r else pure none
  match w? with
  | some w => return .calculate line w
  | none => do
      let script ← block r
      expectOperator r .closeGroup
      return .group script

/-- The words and redirections that stand next. -/
def simpleParts (r : Readers) : Reading (List (Word ⊕ Redirection)) :=
  Reading.gather (do
    match ← Lexer.peek r with
    | .word w _ => do
        take r
        return some (.inl w)
    | _ => return (← redirection? r).map .inr)

/-- Whether a text can name a function. -/
def namesFunction (d : Dialect) (raw : Octets) : Bool :=
  d = .extended || (isName raw &&
    !(["break", "continue", "eval", "exec", "exit", "export", "readonly", "return", "set", "shift",
      "times", "trap", "unset"].contains (String.ofList raw)))

/-- Whether a text begins with a name and an equals sign. -/
def assigns (raw : Octets) : Bool :=
  let name := raw.takeWhile isNameChar
  isName name && (raw.drop name.length).head? == some '='

/-- A command of words; a name before two parentheses begins a function, whose body is read by the
last argument. In the extended dialect the command belongs to the line of its second token. -/
def simple (r : Readers) (body : Reading Stage) : Reading Stage := do
  let line ← Reading.line
  match ← Lexer.peek r with
  | .word w raw => do
      take r
      match ← Lexer.peek r with
      | .operator .openGroup => do
          if assigns raw && !(← Reading.isExtended) then failHere r none
          take r
          match ← Lexer.peek r with
          | .operator .closeGroup => take r
          | _ => failAtWord r (some (marked ")"))
          if namesFunction (← get).dialect raw then
            skipNewlines r
            return .stage (.define line raw (← body)) []
          else Reading.fail .badFunctionName
      | t => do
          let line ← if ← Reading.isExtended then pure (← Reading.lineOf t).1 else pure line
          let ps ← simpleParts r
          return .stage (.simple line (w :: ps.filterMap Sum.getLeft?))
            (ps.filterMap Sum.getRight?)
  | _ => do
      let ps ← simpleParts r
      if ps.isEmpty then failHere r none
      else return .stage (.simple line (ps.filterMap Sum.getLeft?)) (ps.filterMap Sum.getRight?)

/-- A command made of scripts, if one begins with a reserved word. -/
def reservedCommand (r : Readers) (body : Reading Stage) : String → Reading Command
  | "\x7b" => do
      let script ← block r
      expectReserved r "\x7d"
      return .braces script
  | "if" => do choice r ((← Reading.rest).length + 1)
  | "while" => do
      let condition ← block r
      return .loop true condition (← loopBody r)
  | "until" => do
      let condition ← block r
      return .loop false condition (← loopBody r)
  | "for" => do
      if (← Reading.isExtended) && (← Reading.takeWhile isBlank *> Reading.accept ['(', '(']) then
        count r
      else each r
  | "case" => cases r
  | "[[" => test r
  | "function" => do
      let line ← Reading.line
      match ← Lexer.peek r with
      | .word _ raw => do
          take r
          if ← acceptOperator r .openGroup then expectOperator r .closeGroup
          skipNewlines r
          return .define line raw (← body)
      | _ => failHere r none
  | _ => failHere r none

/-- The reserved words with which a command begins. -/
def openingWords : List String := ["\x7b", "if", "while", "until", "for", "case", "[[", "function"]

/-- A stage of a pipeline. The number bounds the functions in functions. -/
def stage (r : Readers) : Nat → Reading Stage
  | 0 => failHere r none
  | n + 1 => do
      let body : Reading Stage := do
        -- in the extended dialect the body of a function is a command made of scripts
        let t ← Lexer.peek r
        let opens := (t.reserved? (← get).dialect).any openingWords.contains
        let isGroup := match t with
          | .operator .openGroup => true
          | _ => false
        if (← Reading.isExtended) && !opens && !isGroup then failHere r none else stage r n
      match ← reserved r with
      | some name =>
          if openingWords.contains name then do
            take r
            let c ← reservedCommand r body name
            return .stage c (← redirections r)
          else failHere r none
      | none => match ← Lexer.peek r with
        | .operator .openGroup => do
            take r
            let c ← group r
            return .stage c (← redirections r)
        | _ => simple r body

/-! ### Pipelines -/

/-- A stage whose diagnostics go where its output goes. -/
def withDiagnostics : Stage → Stage
  | .stage c rs => .stage c (rs ++ [.redirection (some 2) .duplicate (Word.ofBare ['1'])])

/-- The stages of a pipeline, behind those that have been read. The number bounds them. -/
def stagesFrom (r : Readers) : Nat → List Stage → Reading (List Stage)
  | 0, before => return before.reverse
  | n + 1, before => do
      let s ← stage r ((← Reading.rest).length + 2)
      if ← acceptOperator r .pipe then
        skipNewlines r
        stagesFrom r n (s :: before)
      else if ← acceptOperator r .pipeAll then
        skipNewlines r
        stagesFrom r n (withDiagnostics s :: before)
      else return (s :: before).reverse

/-- The stages of a pipeline. -/
def stages (r : Readers) : Reading (List Stage) := do
  stagesFrom r ((← Reading.rest).length + 2) []

/-- What stands in front of a pipeline in the extended dialect: whether its time is asked for, and
whether its outcome is turned round. The number bounds the words. -/
def prelude (r : Readers) : Nat → Bool → Bool → Reading (Bool × Bool)
  | 0, timed, negated => return (timed, negated)
  | n + 1, timed, negated => do
      match ← reserved r with
      | some "!" => do
          take r
          prelude r n timed (!negated)
      | some "time" => do
          take r
          prelude r n true negated
      | _ => return (timed, negated)

/-- Whether a pipeline may end before a token. -/
def endsPipeline : Token → Bool
  | .operator .newline => true
  | .operator .semicolon => true
  | .finish => true
  | _ => false

/-- A pipeline with what it depends on. -/
def pipeline (r : Readers) (after : Option Bool) : Reading Link := do
  if ← Reading.isExtended then
    let (timed, negated) ← prelude r ((← Reading.rest).length + 1) false false
    let bare := (timed || negated) && endsPipeline (← Lexer.peek r)
    let turned := (← reserved r).isNone && bare
    return .link after timed negated (← if turned then pure [] else stages r)
  else if (← reserved r) = some "!" then
    take r
    return .link after false true (← stages r)
  else return .link after false false (← stages r)

/-- Pipelines that depend on one another, behind those that have been read. The number bounds
them. -/
def linksFrom (r : Readers) : Nat → Option Bool → List Link → Reading (List Link)
  | 0, _, before => return before.reverse
  | n + 1, after, before => do
      let l ← pipeline r after
      if ← acceptOperator r .andThen then
        skipNewlines r
        linksFrom r n (some true) (l :: before)
      else if ← acceptOperator r .orElse then
        skipNewlines r
        linksFrom r n (some false) (l :: before)
      else return (l :: before).reverse

/-- Pipelines that depend on one another. -/
def links (r : Readers) : Reading (List Link) := do
  linksFrom r ((← Reading.rest).length + 2) none []

/-- The mark behind an item: whether more may follow, and whether the item is run beside that. -/
def itemEnd (r : Readers) : Reading (Bool × Bool) := do
  if ← acceptOperator r .background then return (true, true)
  else if ← acceptOperator r .semicolon then return (true, false)
  else match ← Lexer.peek r with
    | .operator .newline => return (true, false)
    | _ => return (false, false)

/-- The items up to a token that ends them, behind those that have been read. The number bounds
them. -/
def itemsFrom (r : Readers) : Nat → List Item → Reading (List Item)
  | 0, before => return before.reverse
  | n + 1, before => do
      skipNewlines r
      let d := (← get).dialect
      let ended := match ← Lexer.peek r with
        | .finish => true
        | t => closes d t
      if ended then return before.reverse
      else
        let ls ← links r
        let (more, background) ← itemEnd r
        let before := .item background ls :: before
        if more then itemsFrom r n before else return before.reverse

/-- The items up to a token that ends them. -/
def items (r : Readers) : Reading (List Item) := do
  itemsFrom r ((← Reading.rest).length + 2) []

/-- The items of a line, behind those that have been read. The number bounds them. -/
def lineFrom (r : Readers) : Nat → List Item → Reading (List Item)
  | 0, before => return before.reverse
  | n + 1, before => do
      match ← Lexer.peek r with
      | .finish => return before.reverse
      | .operator .newline => do
          take r
          return before.reverse
      | _ => do
          let ls ← links r
          let (more, background) ← itemEnd r
          let before := .item background ls :: before
          if more then lineFrom r n before
          else match ← Lexer.peek r with
            | .finish => return before.reverse
            | _ => failHere r none

/-- The items of the next line; nothing at the end of the text. -/
def line? (r : Readers) : Reading (Option (List Item)) := do
  match ← Lexer.peek r with
  | .finish => return none
  | _ => return some (← lineFrom r ((← Reading.rest).length + 2) [])

end Grammar

mutual

/-- The parts of a word, nested at most as deeply as a number says. -/
def readParts : Nat → Surroundings → Reading Word
  | 0, _ => Reading.fail .openParenthesis
  | n + 1, s => Lexer.parts ⟨fun s => readParts n s, readItems n⟩ s

/-- The items up to a token that ends them, nested at most as deeply as a number says. -/
def readItems : Nat → Reading (List Item)
  | 0 => Reading.fail .openParenthesis
  | n + 1 => Grammar.items ⟨fun s => readParts n s, readItems n⟩

end

/-- The readers of what is nested at most as deeply as a number says. -/
def readersAt (n : Nat) : Readers := ⟨fun s => readParts n s, readItems n⟩

/-- The items of the next line of a source, and the source behind it; nothing at its end. Each level
of nesting takes a character. -/
def readLine (s : Source) : Except SyntaxError (Option (List Item) × Source) :=
  (Grammar.line? (readersAt (s.rest.length + 2))).run s

end Script

end LineShell
