import LineShell.Script.Escape
import LineShell.Script.Source

/-!
# Words and tokens

The lexer takes one part of a word after another. Where a part ends, and what a quotation mark or a
backslash means, depends on the surroundings: outside of quotation marks, inside of them, between
the braces of a parameter, in an expression, or in a text on lines of its own. Words hold scripts
and scripts hold words, so the lexer is given the readers of both for what is nested.
-/

namespace LineShell

namespace Script

/-- The surroundings of a part. -/
inductive Surroundings where
  /-- A word outside of quotation marks; it ends before a blank or an operator. -/
  | bare
  /-- A word between double quotation marks, the second of which is taken. -/
  | double
  /-- A word between the braces of a parameter, which ends before certain characters. -/
  | braced (quoted : Bool) (stops : List Char)
  /-- A text in parentheses, the second of which is taken. -/
  | parentheses
  /-- A text on lines of its own. -/
  | document
deriving DecidableEq, Repr

namespace Surroundings

/-- Whether text counts as quoted. -/
def isQuoted : Surroundings → Bool
  | bare => false
  | double => true
  | braced quoted _ => quoted
  | parentheses => true
  | document => true

end Surroundings

/-- The readers of what is nested. -/
structure Readers where
  /-- Reads the parts of a word. -/
  parts : Surroundings → Reading Word
  /-- Reads a script up to something that ends it. -/
  items : Reading (List Item)

/-- The characters that end an unquoted word. -/
def endsWord (c : Char) : Bool := isBlank c || "\n;&|<>()".toList.contains c

/-- The parameters of one character. -/
def isSpecial (c : Char) : Bool := "?$#!@*-0123456789".toList.contains c

/-- The characters to which a backslash between quotation marks gives back their plain meaning. -/
def isEscapable (s : Surroundings) (c : Char) : Bool :=
  c == '$' || c == '`' || c == '\\' ||
    (match s with
      | .double => c == '"'
      | .braced _ _ => c == '"' || c == '\x7d'
      | _ => false)

namespace Lexer

/-! ### Scripts in words -/

/-- What a reader gives, whose faults are those of a script of which the output is asked for. -/
def nested {α : Type} (r : Reading α) : Reading α :=
  fun s => match r.run s with
    | .error e => .error { e with isNested := e.isNested || e.fault.showsLine }
    | x => x

/-- A script in parentheses, behind the first of them. -/
def scriptInParentheses (r : Readers) : Reading (List Item) := nested (do
  let saved := (← get).waiting
  modify ({ · with waiting := none })
  let script ← r.items
  let t := (← get).waiting
  match t with
  | some (.operator .closeGroup) => do
      modify ({ · with waiting := saved })
      return script
  | some .finish => do
      if ← Reading.isExtended then Reading.fail .openParenthesis
      else Reading.fail (.unexpected .finish (some (marked ")")))
  | some t => Reading.fail (.unexpected t (some (marked ")")))
  | none => Reading.fail .openParenthesis)

/-- The text between backquotes, behind the first. A backslash before one of certain characters is
dropped. The number bounds the steps. -/
def backquotedFrom (quoted : Bool) : Nat → Octets → Octets → Option (Octets × Octets)
  | 0, _, _ => none
  | _, _, [] => none
  | _, before, '`' :: cs => some (before.reverse, cs)
  | n + 1, before, '\\' :: c :: cs =>
      if c = '`' ∨ c = '\\' ∨ c = '$' ∨ (quoted ∧ c = '"') then
        backquotedFrom quoted n (c :: before) cs
      else backquotedFrom quoted n (c :: '\\' :: before) cs
  | n + 1, before, c :: cs => backquotedFrom quoted n (c :: before) cs

/-- The script that a text is in the plain dialect; what cannot belong to it is not looked at. -/
def scriptOfText (r : Readers) (text : Octets) : Reading (List Item) := do
  let saved ← get
  set (Source.ofText saved.dialect 1 text)
  let script ← r.items
  set saved
  return script

/-- The output of a script between backquotes, behind the first. -/
def backquoted (r : Readers) (quoted : Bool) : Reading Part := do
  let cs ← Reading.rest
  match backquotedFrom quoted (cs.length + 1) [] cs with
  | none => do
      if ← Reading.isExtended then Reading.fail .openBackquote
      else Reading.failAtEnd .openBackquote
  | some (inner, rest) => do
      Reading.skipMany (cs.length - rest.length)
      if ← Reading.isExtended then return .outputOf quoted inner
      else return .output quoted (← scriptOfText r inner)

/-! ### Expressions in words -/

/-- The parts of an expression up to two parentheses, behind the first two. One parenthesis alone
belongs to it in the plain dialect, and in the other there is no expression then. The number bounds
the steps. -/
def expressionFrom (r : Readers) : Nat → Word → Reading (Option Word)
  | 0, before => return some before
  | n + 1, before => do
      let inner ← r.parts .parentheses
      if ← Reading.accept [')'] then return some (before ++ inner)
      else if ← Reading.isExtended then return none
      else expressionFrom r n (before ++ inner ++ [.text true [')']])

/-- The expression behind two parentheses, if it is one. -/
def expression? (r : Readers) : Reading (Option Word) := do
  let saved ← get
  Reading.skipMany 2
  match (expressionFrom r (saved.rest.length + 1) []).run (← get) with
  | .ok (some w, s) => do
      set s
      return some (Word.ofParts w)
  | .ok (none, _) => do
      set saved
      return none
  | .error e => throw (match e.fault with
      | .openParenthesis => { e with fault := .openArithmetic }
      | _ => e)

/-! ### Parameters -/

/-- The parts up to a closing brace, which is taken. -/
def upToBrace (r : Readers) (quoted : Bool) : Reading Word := do
  let w ← r.parts (.braced quoted ['\x7d'])
  Reading.skip
  return w

/-- What a substitute for a value is written with. -/
def substituteOf? : Char → Option Substitute
  | '-' => some .otherwise
  | '=' => some .assigned
  | '?' => some .complaint
  | '+' => some .instead
  | _ => none

/-- A piece of a value, behind the colon. -/
def slice (r : Readers) : Reading Operation := do
  let start ← r.parts (.braced true [':', '\x7d'])
  if ← Reading.accept [':'] then return .slice start (some (← upToBrace r true))
  else
    Reading.skip
    return .slice start none

/-- The replacement of what a pattern fits, behind the slash. -/
def replacement (r : Readers) : Reading Operation := do
  let o ← (do
    if ← Reading.accept ['/'] then return Occurrence.all
    else if ← Reading.accept ['#'] then return .start
    else if ← Reading.accept ['%'] then return .finish
    else return .first)
  let pattern ← r.parts (.braced false ['/', '\x7d'])
  if ← Reading.accept ['/'] then return .replace o pattern (← upToBrace r false)
  else
    Reading.skip
    return .replace o pattern []

/-- A change of case, behind the first mark. -/
def recasing (r : Readers) (mark : Char) : Reading Operation := do
  let all ← Reading.accept [mark]
  return .recase (mark == '^') all (← upToBrace r false)

/-- The trimming of a value, behind the first mark. -/
def trimming (r : Readers) (mark : Char) : Reading Operation := do
  let longest ← Reading.accept [mark]
  return .trim (mark == '%') longest (← upToBrace r false)

/-- What is made of a parameter, behind its name; nothing if it has no meaning. -/
def operation? (r : Readers) (quoted : Bool) : Reading (Option Operation) := do
  let cs ← Reading.rest
  let extended ← Reading.isExtended
  match cs with
  | '\x7d' :: _ => do
      Reading.skip
      return some .value
  | ':' :: c :: _ => match substituteOf? c with
    | some s => do
        Reading.skipMany 2
        return some (.substitute s true (← upToBrace r quoted))
    | none => if !extended then return none else do
        Reading.skip
        return some (← slice r)
  | c :: _ => match substituteOf? c with
    | some s => do
        Reading.skip
        return some (.substitute s false (← upToBrace r quoted))
    | none =>
        if c = '%' ∨ c = '#' then do
          Reading.skip
          return some (← trimming r c)
        else if !extended then return none
        else if c = '/' then do
          Reading.skip
          return some (← replacement r)
        else if c = '^' ∨ c = ',' then do
          Reading.skip
          return some (← recasing r c)
        else if c = '@' then match cs with
          | '@' :: letter :: '\x7d' :: _ => do
              Reading.skipMany 3
              return some (.form letter)
          | '@' :: '\x7d' :: _ => do
              Reading.skipMany 2
              return some .value
          | _ => return none
        else return none
  | [] => return none

/-- A subscript between brackets, if there is one. -/
def subscript (r : Readers) : Reading Word := do
  if (← Reading.isExtended) && (← Reading.accept ['[']) then
    let w ← r.parts (.braced true [']'])
    Reading.skip
    return w
  else return []

/-- The name of a parameter, as far as there is one. -/
def parameterName : Reading Octets := do
  match ← Reading.rest with
  | c :: _ =>
      if isNameStart c then Reading.takeWhile isNameChar
      else if isAsciiDigit c then Reading.takeWhile isAsciiDigit
      else if isSpecial c then do
        Reading.skip
        return [c]
      else return []
  | [] => return []

/-- Whether a number sign behind a brace asks for a length, given what stands behind the sign. -/
def asksLength : Octets → Bool
  | c :: d :: _ =>
      isNameChar c || (isSpecial c && d == '\x7d')
  | _ => false

/-- The length of a parameter's value, behind the number sign; nothing if more than that is
written. -/
def lengthOf? (r : Readers) (quoted : Bool) : Reading (Option Part) := do
  let name ← parameterName
  let sub ← subscript r
  if ← Reading.accept ['\x7d'] then return some (.parameter quoted name sub .length)
  else return none

/-- What a name between braces stands for that is looked at through another, behind the mark. -/
def indirection? (r : Readers) (quoted : Bool) : Reading (Option Part) := do
  let name ← parameterName
  let sub ← subscript r
  if name.isEmpty then return none
  else if ← Reading.accept ['*', '\x7d'] then return some (.parameter quoted name sub .names)
  else if ← Reading.accept ['@', '\x7d'] then return some (.parameter quoted name sub .names)
  else if ← Reading.accept ['\x7d'] then match Word.bareText? sub, sub with
    | _, [.text _ ['@']] => return some (.parameter quoted name sub .subscripts)
    | _, [.text _ ['*']] => return some (.parameter quoted name sub .subscripts)
    | _, _ => return some (.parameter quoted name sub .indirect)
  else return none

/-- What stands between braces, behind the first of them, if it has a meaning. -/
def meaningful? (r : Readers) (quoted : Bool) : Reading (Option Part) := do
  let cs ← Reading.rest
  let extended ← Reading.isExtended
  match cs with
  | '#' :: rest =>
      if asksLength rest then do
        Reading.skip
        lengthOf? r quoted
      else do
        Reading.skip
        return (← operation? r quoted).map (.parameter quoted ['#'] [])
  | '!' :: c :: _ =>
      if extended && isNameChar c then do
        Reading.skip
        indirection? r quoted
      else do
        Reading.skip
        return (← operation? r quoted).map (.parameter quoted ['!'] [])
  | _ => do
      let name ← parameterName
      if name.isEmpty then return none
      else
        let sub ← subscript r
        return (← operation? r quoted).map (.parameter quoted name sub)

/-- What stands between braces, behind the first of them. -/
def braces (r : Readers) (quoted : Bool) : Reading Part := do
  let before ← Reading.rest
  match ← meaningful? r quoted with
  | some p => return p
  | none => do
      let _ ← upToBrace r quoted
      let after ← Reading.rest
      let raw := before.take (before.length - after.length)
      return .parameter quoted [] [] (.meaningless raw)

/-! ### Quotations -/

/-- Giving up at a quotation that is open, in the extended dialect at the line where it begins. -/
def failInQuotation {α : Type} (start : Nat × Octets) (mark : Char) : Reading α := do
  if ← Reading.isExtended then Reading.failAt start (.openQuote mark)
  else Reading.failAtEnd (.openQuote mark)

/-- The text between single quotation marks, behind the first. -/
def single : Reading Octets := do
  let start ← Reading.here
  let cs ← Reading.takeWhile (· != '\'')
  if (← Reading.rest).isEmpty then failInQuotation start '\''
  else
    Reading.skip
    return cs

/-- The length of a text up to a quotation mark before which there is no backslash. -/
def escapedLength : Octets → Option Nat
  | [] => none
  | '\'' :: _ => some 0
  | '\\' :: _ :: cs => (escapedLength cs).map (· + 2)
  | _ :: cs => (escapedLength cs).map (· + 1)

/-- The text with escapes between single quotation marks, behind the first. -/
def escaped : Reading Octets := do
  let cs ← Reading.rest
  match escapedLength cs with
  | none => Reading.fail (.openQuote '\'')
  | some n => do
      Reading.skipMany (n + 1)
      return unescapeQuoted (cs.take n)

/-- What a backslash makes of the text behind it. -/
def afterBackslash (s : Surroundings) : Reading Word := do
  match ← Reading.rest with
  | [] => return [.text true ['\\']]
  | c :: _ => do
      Reading.skip
      if c = '\n' then return []
      else if s.isQuoted && !isEscapable s c then return [.text true ['\\', c]]
      else return [.text true [c]]

/-- What a dollar sign makes of the text behind it. -/
def afterDollar (r : Readers) (s : Surroundings) : Reading Word := do
  let quoted := s.isQuoted
  let extended ← Reading.isExtended
  match ← Reading.rest with
  | '(' :: '(' :: _ => match ← expression? r with
    | some w => return [.arithmetic quoted w]
    | none => do
        Reading.skip
        return [.output quoted (← scriptInParentheses r)]
  | '(' :: _ => do
      Reading.skip
      return [.output quoted (← scriptInParentheses r)]
  | '\x7b' :: _ => do
      Reading.skip
      return [← braces r quoted]
  | '\'' :: _ =>
      if extended && !quoted then do
        Reading.skip
        return [.text true (← escaped)]
      else return [.text quoted ['$']]
  | '"' :: _ => if extended && !quoted then return [] else return [.text quoted ['$']]
  | '[' :: _ =>
      if extended then do
        Reading.skip
        let w ← r.parts (.braced true [']'])
        Reading.skip
        return [.arithmetic quoted w]
      else return [.text quoted ['$']]
  | c :: _ =>
      if isSpecial c then do
        Reading.skip
        return [.parameter quoted [c] [] .value]
      else if isNameStart c then
        return [.parameter quoted (← Reading.takeWhile isNameChar) [] .value]
      else return [.text quoted ['$']]
  | [] => return [.text quoted ['$']]

/-- What stands between double quotation marks, behind the first. -/
def double (r : Readers) : Reading Word := do
  let w ← r.parts .double
  return if w.isEmpty then [.text true []] else w

/-! ### Words -/

/-- The fault of a text that ends between braces, which begin at a line. -/
def openBraces (start : Nat × Octets) (quoted : Bool) (stops : List Char) :
    Reading (Option Word) := do
  if ← Reading.isExtended then Reading.failAt start (match stops with
    | [';'] => .openParenthesis
    | [']'] => .openBracket
    | _ => .openBrace)
  else Reading.failAt start (if quoted then .openQuote '"' else .openBrace)

/-- What there is at the end of a text, if the part begins at a line. -/
def atEnd (start : Nat × Octets) (s : Surroundings) : Reading (Option Word) :=
  match s with
  | .bare => return none
  | .document => return none
  | .double => failInQuotation start '"'
  | .braced quoted stops => openBraces start quoted stops
  | .parentheses => do
      if ← Reading.isExtended then Reading.failAt start .openParenthesis
      else Reading.fail .openParenthesis

/-- A plain character as a part. -/
def plainChar (s : Surroundings) (c : Char) : Reading (Option Word) := do
  Reading.skip
  return some [.text s.isQuoted [c]]

/-- The next parts, if the word, which begins at a line, does not end here. A character that ends it
is taken where that is asked for. -/
def step (r : Readers) (start : Nat × Octets) (s : Surroundings) : Reading (Option Word) := do
  match ← Reading.rest with
  | [] => atEnd start s
  | '\\' :: _ => do
      Reading.skip
      return some (← afterBackslash s)
  | '$' :: _ => do
      Reading.skip
      return some (← afterDollar r s)
  | '`' :: _ => do
      Reading.skip
      return some [← backquoted r s.isQuoted]
  | '\'' :: _ => match s with
    | .bare => do
        Reading.skip
        return some [.text true (← single)]
    | .braced false _ => do
        Reading.skip
        return some [.text true (← single)]
    | _ => plainChar s '\''
  | '"' :: _ => match s with
    | .double => do
        Reading.skip
        return none
    | .document => plainChar s '"'
    | .parentheses => do
        if ← Reading.isExtended then
          Reading.skip
          return some []
        else plainChar s '"'
    | _ => do
        Reading.skip
        return some (← double r)
  | c :: cs => match s with
    | .bare =>
        if endsWord c then
          if (c = '<' ∨ c = '>') && cs.head? == some '(' && (← Reading.isExtended) then do
            Reading.skipMany 2
            return some [.file (← scriptInParentheses r)]
          else return none
        else plainChar s c
    | .braced _ stops => if stops.contains c then return none else plainChar s c
    | .parentheses =>
        if c = ')' then do
          Reading.skip
          return none
        else if c = '(' then do
          Reading.skip
          let inner ← r.parts .parentheses
          return some (.text true ['('] :: inner ++ [.text true [')']])
        else plainChar s c
    | _ => plainChar s c

/-- The parts of a word. -/
def parts (r : Readers) (s : Surroundings) : Reading Word := do
  let ps ← Reading.gather (step r (← Reading.here) s)
  return Word.ofParts ps.flatten

/-- The length of a name with a subscript that stands before an equals sign, if a text begins
so. -/
def subscriptedLength? (cs : Octets) : Option Nat :=
  let name := cs.takeWhile isNameChar
  match cs.drop name.length with
  | '[' :: rest =>
      let inner := rest.takeWhile fun c => c != ']' && !isSpace c
      match rest.drop inner.length with
      | ']' :: '=' :: _ => if isName name then some name.length else none
      | ']' :: '+' :: '=' :: _ => if isName name then some name.length else none
      | _ => none
  | _ => none

/-- Whether a text begins with a name to which a list is assigned; how long that beginning is. -/
def listLength? (cs : Octets) : Option Nat :=
  let name := cs.takeWhile isNameChar
  if !isName name then none
  else match cs.drop name.length with
    | '=' :: '(' :: _ => some (name.length + 1)
    | '+' :: '=' :: '(' :: _ => some (name.length + 2)
    | _ => none

/-- Skipping what stands between the elements of a list. -/
def skipSpaces : Reading Unit := do
  let _ ← Reading.takeWhile isSpace
  if ← Reading.startsWith ['#'] then
    let _ ← Reading.takeWhile (· != '\n')
    let _ ← Reading.takeWhile isSpace

/-- An element of a list, which may have a subscript. -/
def element (r : Readers) : Reading Word := do
  if ← Reading.startsWith ['['] then
    let cs ← Reading.rest
    let inner := (cs.drop 1).takeWhile (· != ']')
    match cs.drop (inner.length + 1) with
    | ']' :: '=' :: _ => do
        Reading.skip
        let sub ← r.parts (.braced true [']'])
        Reading.skip
        return .subscript sub :: (← r.parts .bare)
    | _ => r.parts .bare
  else r.parts .bare

/-- The next element of a list that begins at a line, if it does not end here. -/
def nextElement (r : Readers) (start : Nat × Octets) : Reading (Option Word) := do
  skipSpaces
  match ← Reading.rest with
  | [] => Reading.failAt start .openList
  | ')' :: _ => do
      Reading.skip
      return none
  | c :: _ =>
      if endsWord c then do
        Reading.skip
        Reading.fail (.unexpected (.word [] [c]) none)
      else return some (← element r)

/-- A word in the extended dialect: a name may have a subscript or be set to a list. -/
def extendedWord (r : Readers) : Reading Word := do
  let cs ← Reading.rest
  match listLength? cs, subscriptedLength? cs with
  | some n, _ => do
      Reading.skipMany (n + 1)
      let start ← Reading.here
      return [.text false (cs.take n), .elements (← Reading.gather (nextElement r start))]
  | none, some n => do
      Reading.skipMany (n + 1)
      let sub ← r.parts (.braced true [']'])
      Reading.skip
      return .text false (cs.take n) :: .subscript sub :: (← r.parts .bare)
  | none, none => r.parts .bare

/-- A word, and how it is written. -/
def word (r : Readers) : Reading Token := do
  let (w, raw) ← Reading.withRaw (do
    if ← Reading.isExtended then extendedWord r else r.parts .bare)
  return .word w raw

/-! ### Tokens -/

/-- The operators that both dialects have, longer ones first. -/
def commonOperators : List (Octets × Operator) :=
  [("\n".toList, .newline), (";;".toList, .clauseEnd ";;".toList), (";".toList, .semicolon),
    ("&&".toList, .andThen), ("&".toList, .background), ("||".toList, .orElse),
    ("|".toList, .pipe), ("(".toList, .openGroup), (")".toList, .closeGroup)]

/-- The operators of the extended dialect alone. -/
def extendedOperators : List (Octets × Operator) :=
  [(";;&".toList, .clauseEnd ";;&".toList), (";&".toList, .clauseEnd ";&".toList),
    ("|&".toList, .pipeAll)]

/-- The redirections that both dialects have, longer ones first. -/
def commonRedirections : List (Octets × Direction) :=
  [(">>".toList, .append), (">&".toList, .duplicate), (">|".toList, .overwrite),
    (">".toList, .output), ("<>".toList, .both), ("<&".toList, .duplicateInput),
    ("<".toList, .input)]

/-- The redirections of the extended dialect alone. -/
def extendedRedirections : List (Octets × Direction) :=
  [("<<<".toList, .line), ("&>>".toList, .appendAll), ("&>".toList, .outputAll)]

/-- What a table has for the beginning of a text. -/
def find? {α : Type} (table : List (Octets × α)) (cs : Octets) : Option (Octets × α) :=
  table.find? fun e => e.1.isPrefixOf cs

/-- The number of a stream before a redirection, and its length. -/
def streamNumber (d : Dialect) (cs : Octets) : Option Nat × Nat :=
  let ds := cs.takeWhile isAsciiDigit
  match cs.drop ds.length with
  | c :: _ =>
      if !ds.isEmpty && (c == '<' || c == '>') && (d = .extended || ds.length = 1) then
        (some (ofDigits ds), ds.length)
      else (none, 0)
  | [] => (none, 0)

/-- The redirection with which a text begins, with its length. -/
def redirection? (d : Dialect) (cs : Octets) : Option (Token × Nat) :=
  let (stream, n) := streamNumber d cs
  let cs := cs.drop n
  let own := if d = .extended then find? extendedRedirections cs else none
  match own with
  | some (raw, direction) => some (.redirect stream direction raw, n + raw.length)
  | none =>
      if "<<-".toList.isPrefixOf cs then some (.document stream true, n + 3)
      else if "<<".toList.isPrefixOf cs then some (.document stream false, n + 2)
      else if d = .extended && ("<(".toList.isPrefixOf cs || ">(".toList.isPrefixOf cs) then none
      else (find? commonRedirections cs).map fun (raw, direction) =>
        (.redirect stream direction raw, n + raw.length)

/-- The operator with which a text begins, with its length. -/
def operator? (d : Dialect) (cs : Octets) : Option (Token × Nat) :=
  let own := if d = .extended then find? extendedOperators cs else none
  (own <|> find? commonOperators cs).map fun (raw, o) => (.operator o, raw.length)

/-- Skipping blanks, line ends behind a backslash, and a remark. -/
def skipBlanks : Reading (Option Unit) := do
  match ← Reading.rest with
  | '\\' :: '\n' :: _ => some <$> Reading.skipMany 2
  | '#' :: _ => do
      let _ ← Reading.takeWhile (· != '\n')
      return some ()
  | c :: _ => if isBlank c then some <$> Reading.skip else return none
  | [] => return none

/-- The next token of the text. -/
def token (r : Readers) : Reading Token := do
  let _ ← Reading.gather skipBlanks
  let s ← get
  if s.rest.isEmpty then return .finish
  else match redirection? s.dialect s.rest <|> operator? s.dialect s.rest with
    | some (t, n) => do
        Reading.skipMany n
        return t
    | none => word r

/-- The next token, which is taken. -/
def next (r : Readers) : Reading Token := do
  match (← get).waiting with
  | some t => do
      modify ({ · with waiting := none })
      return t
  | none => token r

/-- The next token, which is not taken. -/
def peek (r : Readers) : Reading Token := do
  match (← get).waiting with
  | some t => return t
  | none => do
      let t ← token r
      modify ({ · with waiting := some t })
      return t

/-! ### Texts on lines of their own -/

/-- Lines without the tabs in front. -/
def dropTabs (drops : Bool) (l : Octets) : Octets := if drops then l.dropWhile (· == '\t') else l

/-- The lines up to a mark, and how many lines were taken with it; none if there is no mark. -/
def linesUpTo (drops : Bool) (mark : Octets) : List Octets → Option (List Octets)
  | [] => none
  | l :: ls =>
      if dropTabs drops l = mark then some []
      else (linesUpTo drops mark ls).map (dropTabs drops l :: ·)

/-- Taking the text that begins on the next line and ends with a mark on a line of its own. -/
def document (drops : Bool) (mark : Octets) : Reading Octets := do
  let s ← get
  let line := s.rest.takeWhile (· != '\n')
  let behind := s.rest.drop (line.length + 1)
  let ls := behind.splitOn '\n'
  match linesUpTo drops mark ls with
  | some body => do
      let n := body.length + 1
      set { s with
        rest := line ++ '\n' :: ['\n'].intercalate (ls.drop n)
        taken := s.taken + n }
      return unlines body
  | none => do
      let body := if s.dialect = .extended then ls.dropLast else ls
      let warning := "here-document at line " ++ toString s.line ++
        " delimited by end-of-file (wanted " ++ SyntaxFault.shown mark ++ ")"
      set { s with
        rest := line ++ (if s.rest.length = line.length then [] else ['\n'])
        taken := s.taken + (ls.length - 1)
        warnings := s.warnings ++ [(s.line + (ls.length - 1), warning)] }
      let text := (body.map (dropTabs drops))
      return if s.dialect = .extended then unlines text else ['\n'].intercalate text

/-- The parts of a text that was taken. -/
def documentParts (r : Readers) (text : Octets) : Reading Word := do
  let saved ← get
  set { saved with rest := text, waiting := none }
  let w ← r.parts .document
  set saved
  return w

/-- The text of a word without its quotation marks, and whether it has any. -/
def unquotedRaw (raw : Octets) : Octets × Bool :=
  (raw.filter fun c => c != '"' && c != '\'' && c != '\\',
    raw.any fun c => c == '"' || c == '\'' || c == '\\')

end Lexer

end Script

end LineShell
