import LineShell.Power
import LineShell.Script.Escape
import LineShell.Script.Syntax

/-!
# Expressions

Whole numbers of 64 bits, the usual operators with the usual precedence, and variables, which can be
set on the way. Truth is one, and zero is falsehood. An expression is read first; its value depends
on the variables, so that it is not found here.

The dialects differ in the operators that they have and in what they say about faults: the extended
one shows the text from the last token on.
-/

namespace LineShell

namespace Script

/-- An expression. A name has a subscript, which is empty if there is none; operators that can go
wrong know the text from their right side on. -/
inductive Expression where
  /-- A number. -/
  | number (n : Int)
  /-- The value of a variable. -/
  | name (x sub : Octets)
  /-- What an operator makes of a value. -/
  | unary (op : Char) (e : Expression)
  /-- What an operator makes of two values. -/
  | binary (op : String) (a b : Expression) (near : Octets)
  /-- One value or another. -/
  | choose (condition a b : Expression)
  /-- A variable set to a value, or to what an operator makes of its value and another. -/
  | assign (x sub : Octets) (op : String) (e : Expression) (near : Octets)
  /-- A variable increased by a number, and its value before or after that. -/
  | step (x sub : Octets) (after : Bool) (amount : Int)
deriving DecidableEq, Repr

/-- What is wrong with an expression. -/
inductive ExpressionFault where
  /-- There is no operand where one is due. -/
  | operandMissing
  /-- There is nothing where an expression is due. -/
  | expressionMissing
  /-- The text goes on where it should end. -/
  | trailing
  /-- The text goes on with something that is no operator. -/
  | notAnOperator
  /-- A parenthesis is missing. -/
  | parenthesisMissing
  /-- A colon is missing. -/
  | colonMissing
  /-- Something is set that is no variable. -/
  | notAVariable
  /-- A divisor is zero. -/
  | divisionByZero
  /-- An exponent is negative. -/
  | negativeExponent
  /-- A digit does not belong to its base. -/
  | digitTooGreat
  /-- There is no such base. -/
  | badBase
  /-- Variables stand for one another without end. -/
  | endless
deriving DecidableEq, Repr

/-- What is wrong with an expression, and the text from there on. -/
structure ExpressionError where
  /-- What is wrong. -/
  fault : ExpressionFault
  /-- The text that is shown as the place. -/
  near : Octets
deriving DecidableEq, Repr

namespace ExpressionFault

/-- The wording of a fault in the plain dialect. -/
def plainText : ExpressionFault → String
  | divisionByZero => "division by zero"
  | parenthesisMissing => "expecting ')'"
  | colonMissing => "expecting ':'"
  | trailing => "expecting EOF"
  | notAnOperator => "expecting EOF"
  | notAVariable => "expecting EOF"
  | _ => "expecting primary"

/-- The wording of a fault in the extended dialect. -/
def extendedText : ExpressionFault → String
  | operandMissing => "syntax error: operand expected"
  | expressionMissing => "expression expected"
  | trailing => "syntax error in expression"
  | notAnOperator => "syntax error: invalid arithmetic operator"
  | parenthesisMissing => "missing `)'"
  | colonMissing => "`:' expected for conditional expression"
  | notAVariable => "attempted assignment to non-variable"
  | divisionByZero => "division by 0"
  | negativeExponent => "exponent less than 0"
  | digitTooGreat => "value too great for base"
  | badBase => "invalid arithmetic base"
  | endless => "expression recursion level exceeded"

/-- Whether only the place is shown and not the whole expression. -/
def concernsNumeral : ExpressionFault → Bool
  | digitTooGreat => true
  | badBase => true
  | _ => false

end ExpressionFault

/-- The wording of an error about an expression. -/
def ExpressionError.message (d : Dialect) (text : Octets) (e : ExpressionError) : Octets :=
  match d with
  | .plain =>
      octetsOf s!"arithmetic expression: {e.fault.plainText}: \"" ++ text ++ ['"']
  | .extended =>
      let shown := if e.fault.concernsNumeral then e.near else text.dropWhile isSpace
      shown ++ octetsOf s!": {e.fault.extendedText} (error token is \"" ++ e.near ++
        octetsOf "\")"

/-! ### Numbers -/

/-- A number cut to 64 bits. -/
def wrap (n : Int) : Int := Int.bmod n (2 ^ 64)

/-- The greatest number. -/
def greatest : Int := 2 ^ 63 - 1

/-- The value of a digit in bases up to 64. -/
def digitOf (base : Nat) (c : Char) : Nat :=
  if isAsciiDigit c then c.toNat - 48
  else if 'a' ≤ c && c ≤ 'z' then c.toNat - 87
  else if 'A' ≤ c && c ≤ 'Z' then (if base ≤ 36 then c.toNat - 55 else c.toNat - 29)
  else if c = '@' then 62
  else if c = '_' then 63
  else 64

/-- The number that digits of a base write, unless one of them is too great. -/
def digitsIn? (base : Nat) (ds : Octets) : Option Nat :=
  if ds.all fun c => digitOf base c < base then
    some (ds.foldl (fun n c => base * n + digitOf base c) 0)
  else none

/-- The number that a numeral of the extended dialect writes, or what is wrong with it. -/
def extendedNumber (cs : Octets) : Except ExpressionFault Int :=
  let inBase (base : Nat) (ds : Octets) : Except ExpressionFault Int :=
    match digitsIn? base ds with
    | some n => .ok (wrap n)
    | none => .error .digitTooGreat
  match cs with
  | '0' :: 'x' :: ds => inBase 16 ds
  | '0' :: 'X' :: ds => inBase 16 ds
  | cs =>
      if cs.contains '#' then
        let base := (digitsIn? 10 (cs.takeWhile (· != '#'))).getD 0
        if base < 2 || 64 < base then .error .badBase
        else inBase base ((cs.dropWhile (· != '#')).drop 1)
      else match cs with
        | '0' :: ds => inBase 8 ds
        | cs => inBase 10 cs

/-- The number with which a text begins in the plain dialect, and the rest: with a base of 16, 8 or
10, and at most the greatest. -/
def plainNumber (cs : Octets) : Nat × Octets :=
  let inBase (base : Nat) (cs : Octets) : Nat × Octets :=
    let ds := cs.takeWhile fun c => digitOf base c < base
    (min ((digitsIn? base ds).getD 0) greatest.toNat, cs.drop ds.length)
  match cs with
  | '0' :: x :: d :: rest =>
      if (x = 'x' ∨ x = 'X') ∧ isHex d then inBase 16 (d :: rest) else inBase 8 cs
  | '0' :: _ => inBase 8 cs
  | cs => inBase 10 cs

/-! ### Reading expressions -/

namespace Expression

/-- What is still to be read, and the text from the last token on. -/
structure Cursor where
  /-- The dialect. -/
  dialect : Dialect
  /-- What is still to be read. -/
  rest : Octets
  /-- The text from the last token on. -/
  last : Octets

/-- Reading an expression. -/
abbrev Reader := StateT Cursor (Except ExpressionError)

/-- Giving up at the last token. -/
def fail {α : Type} (f : ExpressionFault) : Reader α := do throw ⟨f, (← get).last⟩

/-- Skipping white space; the token behind it is the last one from now on. -/
def skipSpace : Reader Octets := do
  let c ← get
  let rest := c.rest.dropWhile isSpace
  set { c with rest := rest, last := if rest.isEmpty then c.last else rest }
  return rest

/-- Taking a number of octets. -/
def take (n : Nat) : Reader Unit := modify fun c => { c with rest := c.rest.drop n }

/-- The operators of two operands with their levels, longer spellings first. -/
def operators : List (String × Nat) :=
  [("||", 1), ("&&", 2), ("==", 6), ("!=", 6), ("<<", 8), (">>", 8), ("<=", 7), (">=", 7),
    ("|", 3), ("^", 4), ("&", 5), ("<", 7), (">", 7), ("+", 9), ("-", 9), ("*", 10), ("/", 10),
    ("%", 10)]

/-- The operator of powers, which only the extended dialect has. -/
def powerOperator : String × Nat := ("**", 11)

/-- The operator that stands next, with its level. -/
def operatorAt? (d : Dialect) (cs : Octets) : Option (String × Nat) :=
  let table := if d = .extended then powerOperator :: operators else operators
  (table.find? fun o => o.1.toList.isPrefixOf cs).filter fun o =>
    -- an operator with an equals sign behind it sets a variable
    o.2 ≤ 2 || o.2 = 6 || o.1 = "<=" || o.1 = ">=" ||
      (cs.drop o.1.length).head? != some '=' || o.1 = "<" || o.1 = ">"

/-- The operators that can stand before the equals sign of an assignment. -/
def assigningOperators : List String := ["<<", ">>", "+", "-", "*", "/", "%", "&", "^", "|", ""]

/-- The operator of the assignment that stands next, with its length. -/
def assignment? (cs : Octets) : Option (String × Nat) :=
  (assigningOperators.find? fun o => (o.toList ++ ['=']).isPrefixOf cs).bind fun o =>
    if o.isEmpty && "==".toList.isPrefixOf cs then none else some (o, o.length + 1)

/-- The subscript that stands next, if there is one, without its brackets. -/
def subscript : Reader Octets := do
  let c ← get
  match c.dialect, c.rest with
  | .extended, '[' :: cs => do
      let sub := cs.takeWhile (· != ']')
      take (sub.length + 2)
      return sub
  | _, _ => return []

/-- A number. -/
def numberHere : Reader Expression := do
  let c ← get
  match c.dialect with
  | .plain => do
      let (n, rest) := plainNumber c.rest
      set { c with rest := rest }
      return .number n
  | .extended => do
      let cs := c.rest.takeWhile fun x => isNameChar x || x == '#' || x == '@'
      take cs.length
      match extendedNumber cs with
      | .ok n => return .number n
      | .error f => throw ⟨f, cs⟩

/-- What may stand behind a name: a step, if there is one. -/
def afterName (x sub : Octets) : Reader Expression := do
  let c ← get
  if c.dialect = .extended ∧ ['+', '+'].isPrefixOf c.rest then
    take 2
    return .step x sub false 1
  else if c.dialect = .extended ∧ ['-', '-'].isPrefixOf c.rest then
    take 2
    return .step x sub false (-1)
  else return .name x sub

mutual

/-- An operand. The number bounds the steps. -/
def operand : Nat → Reader Expression
  | 0 => fail .operandMissing
  | n + 1 => do
      let cs ← skipSpace
      let d := (← get).dialect
      match cs with
      | [] => fail .operandMissing
      | '(' :: _ => do
          take 1
          let e ← sequence n
          match ← skipSpace with
          | ')' :: _ => do
              take 1
              return e
          | _ => fail .parenthesisMissing
      | a :: b :: rest =>
          if d = .extended && (a == '+' || a == '-') && a == b &&
              (rest.dropWhile isSpace).head?.any isNameStart then do
            take 2
            let inner ← skipSpace
            let x := inner.takeWhile isNameChar
            take x.length
            return .step x (← subscript) true (if a = '+' then 1 else -1)
          else single n a
      | [a] => single n a

/-- An operand that begins with a character which stands next. -/
def single : Nat → Char → Reader Expression
  | 0, _ => fail .operandMissing
  | n + 1, a => do
      if "+-!~".toList.contains a then
        take 1
        return .unary a (← operand n)
      else if isAsciiDigit a then numberHere
      else if isNameStart a then
        let x := (← get).rest.takeWhile isNameChar
        take x.length
        let sub ← subscript
        let _ ← skipSpace
        let c ← get
        match assignment? c.rest with
        | some (op, length) => do
            take length
            let e ← choice n
            return .assign x sub op e c.last
        | none => afterName x sub
      else fail .operandMissing

/-- What operators that bind tighter than a level make of a value and of those behind it. -/
def tighter : Nat → Nat → Expression → Reader Expression
  | 0, _, e => return e
  | n + 1, level, e => do
      let before := (← get).last
      let cs ← skipSpace
      match operatorAt? (← get).dialect cs with
      | none => return e
      | some (op, l) =>
          if l ≤ level then do
            modify fun c => { c with last := before }
            return e
          else do
            take op.length
            let near := (← get).rest.dropWhile isSpace
            let right ← operand n
            let right ← tighter n (if op = "**" then l - 1 else l) right
            tighter n level (.binary op e right near)

/-- An expression with a choice. -/
def choice : Nat → Reader Expression
  | 0 => fail .operandMissing
  | n + 1 => do
      let e ← operand n
      let e ← tighter n 0 e
      match ← skipSpace with
      | '?' :: _ => do
          take 1
          let a ← sequence n
          match ← skipSpace with
          | ':' :: _ => do
              take 1
              let rest := (← get).rest
              if (← get).dialect = .extended ∧ rest.all isSpace then
                throw ⟨.expressionMissing, ':' :: rest⟩
              else return .choose e a (← choice n)
          | _ => fail .colonMissing
      | _ => return e

/-- Expressions one after another, in the extended dialect. -/
def sequence : Nat → Reader Expression
  | 0 => fail .operandMissing
  | n + 1 => do
      let e ← choice n
      let cs ← skipSpace
      if (← get).dialect = .extended ∧ cs.head? = some ',' then
        take 1
        let rest := (← get).rest
        return .binary "," e (← sequence n) rest
      else return e

end

/-- The fault of a text that goes on behind an expression. -/
def trailingFault (cs : Octets) : ExpressionFault :=
  match cs with
  | c :: d :: _ =>
      if c = '=' ∧ d ≠ '=' then .notAVariable
      else if isNameChar c || "()?:,=<>+-*/%&|^!~".toList.contains c then .trailing
      else .notAnOperator
  | [c] =>
      if c = '=' then .notAVariable
      else if isNameChar c || "()?:,<>+-*/%&|^!~".toList.contains c then .trailing
      else .notAnOperator
  | [] => .trailing

/-- The expression that a text writes; an empty one is zero in the extended dialect. -/
def read (d : Dialect) (cs : Octets) : Except ExpressionError Expression :=
  if d = .extended ∧ cs.all isSpace then .ok (.number 0)
  else match (sequence (6 * cs.length + 6)).run ⟨d, cs, cs⟩ with
    | .error e => .error e
    | .ok (e, c) =>
        let rest := c.rest.dropWhile isSpace
        if rest.isEmpty then .ok e else .error ⟨trailingFault rest, rest⟩

end Expression

/-! ### Operators -/

/-- A truth value as a number. -/
def ofTruth (b : Bool) : Int := if b then 1 else 0

/-- A number as 64 bits. -/
def bitsOf (n : Int) : Nat := (n % 2 ^ 64).toNat

/-- What an operator makes of a number. -/
def applyUnary (op : Char) (a : Int) : Int :=
  match op with
  | '-' => wrap (-a)
  | '!' => ofTruth (a == 0)
  | '~' => -a - 1
  | _ => a

/-- What an operator makes of two numbers. -/
def applyBinary (op : String) (a b : Int) : Except ExpressionFault Int :=
  let shift : Nat := (b % 64).toNat
  match op with
  | "==" => .ok (ofTruth (a == b))
  | "!=" => .ok (ofTruth (a != b))
  | "<=" => .ok (ofTruth (a ≤ b))
  | ">=" => .ok (ofTruth (b ≤ a))
  | "<" => .ok (ofTruth (a < b))
  | ">" => .ok (ofTruth (b < a))
  | "+" => .ok (wrap (a + b))
  | "-" => .ok (wrap (a - b))
  | "*" => .ok (wrap (a * b))
  | "/" => if b = 0 then .error .divisionByZero else .ok (wrap (a.tdiv b))
  | "%" => if b = 0 then .error .divisionByZero else .ok (a.tmod b)
  | "**" => if b < 0 then .error .negativeExponent else .ok (wrap (powModulo a b.toNat))
  | "<<" => .ok (wrap (a * 2 ^ shift))
  | ">>" => .ok (a / 2 ^ shift)
  | "&" => .ok (wrap (bitsOf a &&& bitsOf b))
  | "|" => .ok (wrap (bitsOf a ||| bitsOf b))
  | "^" => .ok (wrap (bitsOf a ^^^ bitsOf b))
  | _ => .ok b
where
  /-- A power cut to 64 bits. -/
  powModulo (a : Int) (n : Nat) : Int :=
    if n = 0 then 1
    else
      let half := powModulo (wrap (a * a)) (n / 2)
      if n % 2 = 1 then wrap (a * half) else half
  termination_by n

end Script

end LineShell
