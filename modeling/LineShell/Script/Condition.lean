import LineShell.Disk.System
import LineShell.Numeral.Signed
import LineShell.Script.Octets

/-!
# Conditions

Arguments that state a condition on texts, numbers and files, as they are read between single
brackets. Few arguments are read by their number; more of them are joined by operators. The common
shell reads them by its own rules, and says other things about what it does not understand.

Main statement: `evaluate_one`, by which one argument alone is a condition on its being empty.
-/

namespace LineShell

namespace Script

namespace Condition

/-! ### Tests -/

/-- What is asked of a single operand. -/
abbrev Inquiry := Char → Octets → Bool

/-- The path of octets as a text. -/
def textOfPath (path : Octets) : String := String.ofList (textOf path)

/-- What is at a path, where a link at its end is followed or not. -/
def nodeAt? (d : Disk) (followLast : Bool) (path : Octets) : Option Node :=
  let s := textOfPath path
  if s.isEmpty then none
  else match d.placeOf followLast (Path.isAbsoluteText s) (Path.stepsOf s) with
    | .ok place => d.nodeAt place
    | .error _ => none

/-- What a letter asks of the file at a path. -/
def testFile (d : Disk) (letter : Char) (path : Octets) : Bool :=
  match letter with
  | 'h' => isLink (nodeAt? d false path)
  | 'L' => isLink (nodeAt? d false path)
  | letter => match nodeAt? d true path, letter with
    | none, _ => false
    | some (.directory _), 'd' => true
    | some (.directory _), 'f' => false
    | some (.directory _), 's' => true
    | some (.directory _), 'x' => true
    | some (.device), 'c' => true
    | some (.device), 'f' => false
    | some (.device), 's' => false
    | some (.program _), 'x' => true
    | some n, 's' => (Disk.bytesOf? n).any fun bs => !bs.isEmpty
    | some _, letter => "aefrwOGN".toList.contains letter
where
  /-- Whether there is a link. -/
  isLink : Option Node → Bool
    | some (.link _) => true
    | _ => false

/-- Whether two paths lead to one file. -/
def isSameFile (d : Disk) (x y : Octets) : Bool :=
  let place (path : Octets) : Option (List String) :=
    let s := textOfPath path
    match d.placeOf true (Path.isAbsoluteText s) (Path.stepsOf s) with
    | .ok p => if (d.nodeAt p).isSome then some p else none
    | .error _ => none
  (place x).isSome && place x == place y

/-- The number that a text writes, with white space around it. -/
def number? (cs : Octets) : Option Int :=
  let cs := ((cs.dropWhile isSpace).reverse.dropWhile isSpace).reverse
  let (negative, ds) := match cs with
    | '-' :: ds => (true, ds)
    | '+' :: ds => (false, ds)
    | ds => (false, ds)
  if ds.isEmpty || !ds.all isAsciiDigit then none
  else
    let n : Int := ofDigits ds
    some (if negative then -n else n)

/-- Whether a number has its place in a word of 64 bits. -/
def isWord (n : Int) : Bool := -9223372036854775808 ≤ n && n ≤ 9223372036854775807

/-- How two numbers stand to one another, by the name of a comparison. -/
def compareNumbers? (op : String) : Option (Int → Int → Bool) :=
  match op with
  | "-eq" => some fun a b => a == b
  | "-ne" => some fun a b => a != b
  | "-lt" => some fun a b => a < b
  | "-le" => some fun a b => a ≤ b
  | "-gt" => some fun a b => b < a
  | "-ge" => some fun a b => b ≤ a
  | _ => none

/-- How two texts, or the files at two paths, stand to one another. -/
def compareTexts? (d : Disk) (olderIsMissing : Bool) (op : String) :
    Option (Octets → Octets → Bool) :=
  let there (p : Octets) : Bool := (nodeAt? d true p).isSome
  match op with
  | "=" => some fun x y => x == y
  | "!=" => some fun x y => x != y
  | "<" => some fun x y => !octetsLe y x
  | ">" => some fun x y => !octetsLe x y
  | "-ef" => some (isSameFile d)
  | "-nt" => some fun x y => olderIsMissing && there x && !there y
  | "-ot" => some fun x y => olderIsMissing && there y && !there x
  | _ => none

/-! ### The rules of the common shell -/

namespace Plain

/-- What an argument is read as. -/
inductive Role where
  /-- There is none. -/
  | missing
  /-- A test of one operand. -/
  | unary (letter : Char)
  /-- A test of two operands. -/
  | binary (op : String)
  /-- A negation. -/
  | not
  /-- Two conditions hold. -/
  | and
  /-- One of two conditions holds. -/
  | or
  /-- An opening parenthesis. -/
  | opening
  /-- A closing parenthesis. -/
  | closing
  /-- An operand. -/
  | operand
deriving DecidableEq, Repr

/-- The tests of two operands. -/
def binaries : List String :=
  ["=", "!=", "<", ">", "-eq", "-ne", "-ge", "-gt", "-le", "-lt", "-nt", "-ot", "-ef"]

/-- What an argument can be read as. -/
def roleOf (a : Octets) : Role :=
  match a with
  | ['!'] => .not
  | ['('] => .opening
  | [')'] => .closing
  | ['-', 'a'] => .and
  | ['-', 'o'] => .or
  | ['-', c] => if "rwxefdcbpugkstznhLOGS".toList.contains c then .unary c else .operand
  | a => if binaries.contains (String.ofList a) then .binary (String.ofList a) else .operand

/-- Whether an argument is a test of two operands. -/
def isBinary (a : Octets) : Bool := binaries.contains (String.ofList a)

/-- What the first of arguments is read as, given those behind it. -/
def role : List Octets → Role
  | [] => .missing
  | a :: rest => match roleOf a, rest with
    | .unary _, [] => .operand
    | .unary c, [_] => .unary c
    | .unary c, b :: _ :: _ => if isBinary b then .operand else .unary c
    | .opening, [] => .operand
    | r, _ => r

/-- What is said about an argument. -/
def fault {α : Type} (a : Octets) (message : String) : Except Octets α :=
  .error (a ++ octetsOf ": " ++ octetsOf message)

/-- The number that an operand writes. -/
def number (cs : Octets) : Except Octets Int :=
  match (number? cs).filter isWord with
  | some n => .ok n
  | none => .error (octetsOf "Illegal number: " ++ cs)

/-- A test of two operands. -/
def binary (d : Disk) (op : String) (x y : Octets) : Except Octets Bool :=
  match compareNumbers? op, compareTexts? d false op with
  | some f, _ => do
      let a ← number x
      let b ← number y
      return f a b
  | none, some f => .ok (f x y)
  | none, none => .ok false

mutual

/-- Conditions of which one holds. The arguments that come back begin with the last one read. The
number bounds the nesting. -/
def or (d : Disk) (ask : Inquiry) : Nat → List Octets → Except Octets (Bool × List Octets)
  | 0, args => .ok (false, args)
  | n + 1, args => do
      let (v, rest) ← and d ask n args
      if role (rest.drop 1) = .or then
        let (w, rest) ← or d ask n (rest.drop 2)
        return (v || w, rest)
      else return (v, rest)

/-- Conditions that all hold. -/
def and (d : Disk) (ask : Inquiry) : Nat → List Octets → Except Octets (Bool × List Octets)
  | 0, args => .ok (false, args)
  | n + 1, args => do
      let (v, rest) ← negation d ask n args
      if role (rest.drop 1) = .and then
        let (w, rest) ← and d ask n (rest.drop 2)
        return (v && w, rest)
      else return (v, rest)

/-- A condition or its negation. -/
def negation (d : Disk) (ask : Inquiry) : Nat → List Octets → Except Octets (Bool × List Octets)
  | 0, args => .ok (false, args)
  | n + 1, args =>
      if role args = .not then
        match args with
        | [a] => .ok (true, [a])
        | args => do
            let (v, rest) ← negation d ask n (args.drop 1)
            return (!v, rest)
      else primary d ask n args

/-- A single condition. -/
def primary (d : Disk) (ask : Inquiry) : Nat → List Octets → Except Octets (Bool × List Octets)
  | 0, args => .ok (false, args)
  | n + 1, args => match args, role args with
    | [], _ => .ok (false, [])
    | _ :: rest, .opening =>
        if role rest = .closing then .ok (false, rest)
        else do
          let (v, left) ← or d ask n rest
          if role (left.drop 1) = .closing then return (v, left.drop 1)
          else .error (octetsOf "closing paren expected")
    | a :: rest, .unary c => match rest with
      | [] => fault a "argument expected"
      | x :: more => .ok (ask c x, x :: more)
    | a :: rest, _ => match role rest, rest with
      | .binary op, b :: y :: more => do return (← binary d op a y, (fun _ => y :: more) b)
      | .binary _, [b] => fault b "argument expected"
      | _, _ => .ok (!a.isEmpty, a :: rest)

end

/-- A condition that is read to its end. -/
def whole (r : Except Octets (Bool × List Octets)) : Except Octets Bool := do
  let (v, rest) ← r
  match rest with
  | a :: _ :: _ => fault a "unexpected operator"
  | _ => return v

/-- What arguments come to: those in front that turn a condition round are looked at first, where
there are three or four. The flag tells whether there was one. -/
def evaluateFrom (d : Disk) (ask : Inquiry) (turned : Bool) :
    Nat → List Octets → Except Octets Bool
  | 0, _ => .ok false
  | n + 1, args => do
      let depth := 4 * args.length + 8
      let isTriple := args.length = 3
      let middle := args.getD 1 []
      if isTriple && isBinary middle then
        match args with
        | [x, op, y] => return (← binary d (String.ofList op) x y) != turned
        | _ => return false
      else if isTriple || args.length = 4 then
        if args.head? = some ['('] && args.getLast? = some [')'] then
          let v ← whole (or d ask depth (args.drop 1).dropLast)
          return v != turned
        else if args.head? = some ['!'] then evaluateFrom d ask true n (args.drop 1)
        else
          let v ← whole (or d ask depth args)
          return v != turned
      else
        let v ← whole (or d ask depth args)
        return v != turned

/-- What arguments come to. -/
def evaluate (d : Disk) (ask : Inquiry) (args : List Octets) : Except Octets Bool :=
  if args.isEmpty then .ok false else evaluateFrom d ask false (args.length + 1) args

end Plain

/-! ### The common rules -/

/-- How faults are put into words. -/
structure Wording where
  /-- Something is no number. -/
  noNumber : Octets → Octets
  /-- Something is no test of one operand. -/
  noUnary : Octets → Octets
  /-- Something is no test of two operands. -/
  noBinary : Octets → Octets
  /-- Two arguments state nothing. -/
  noPair : Octets → Octets → Octets
  /-- An argument is missing behind another. -/
  missing : Octets → Octets
  /-- A closing parenthesis is missing, or something else stands there. -/
  noClosing : Option Octets → Octets
  /-- An argument is left. -/
  extra : Octets → Octets
  /-- The letters of tests of one operand. -/
  letters : List Char

/-- The wording of the extended shell. -/
def Wording.extended : Wording where
  noNumber a := a ++ octetsOf ": integer expression expected"
  noUnary a := a ++ octetsOf ": unary operator expected"
  noBinary a := a ++ octetsOf ": binary operator expected"
  noPair a _ := a ++ octetsOf ": unary operator expected"
  missing _ := octetsOf "argument expected"
  noClosing
    | none => octetsOf "`)' expected"
    | some a => octetsOf "`)' expected, found " ++ a
  extra _ := octetsOf "too many arguments"
  letters := "abcdefghknoprstuvwxzGLOSNR".toList

/-- An argument between quotation marks. -/
def marked (a : Octets) : Octets := '\'' :: a ++ ['\'']

/-- The wording of the tool. -/
def Wording.tool : Wording where
  noNumber a := octetsOf "invalid integer " ++ marked a
  noUnary a := marked a ++ octetsOf ": unary operator expected"
  noBinary a := marked a ++ octetsOf ": binary operator expected"
  noPair _ b := octetsOf "missing argument after " ++ marked b
  missing a := octetsOf "missing argument after " ++ marked a
  noClosing
    | none => octetsOf "')' expected"
    | some a => octetsOf "')' expected, found " ++ a
  extra a := octetsOf "extra argument " ++ marked a
  letters := "bcdefghknoprstuwxzGLOSN".toList

/-- What a condition is evaluated with. -/
structure Setting where
  /-- The wording. -/
  wording : Wording
  /-- The disk. -/
  disk : Disk
  /-- What is asked of single operands. -/
  ask : Inquiry

/-- Whether an argument is a test of one operand. -/
def Setting.isUnary (s : Setting) (a : Octets) : Bool :=
  match a with
  | ['-', c] => s.wording.letters.contains c
  | _ => false

/-- Whether an argument is a test of two operands. -/
def Setting.isBinary (s : Setting) (a : Octets) : Bool :=
  let op := String.ofList a
  op = "==" || (compareNumbers? op).isSome || (compareTexts? s.disk true op).isSome

/-- A test of one operand. -/
def Setting.unary (s : Setting) (op x : Octets) : Bool := s.ask (op.getLastD ' ') x

/-- The number that an operand writes. -/
def Setting.number (s : Setting) (x : Octets) : Except Octets Int :=
  match (number? x).filter isWord with
  | some n => .ok n
  | none => .error (s.wording.noNumber x)

/-- A test of two operands. -/
def Setting.binary (s : Setting) (x op y : Octets) : Except Octets Bool :=
  let op := if op = ['=', '='] then "=" else String.ofList op
  match compareNumbers? op, compareTexts? s.disk true op with
  | some f, _ => do
      let a ← s.number x
      let b ← s.number y
      return f a b
  | none, some f => .ok (f x y)
  | none, none => .ok false

/-- One argument. -/
def one (x : Octets) : Bool := !x.isEmpty

/-- Two arguments. -/
def Setting.two (s : Setting) (x y : Octets) : Except Octets Bool :=
  if x = ['!'] then .ok (!one y)
  else if s.isUnary x then .ok (s.unary x y)
  else match x with
    | ['-', _] => .error (s.wording.noUnary x)
    | x => .error (s.wording.noPair x y)

/-- Three arguments. -/
def Setting.three (s : Setting) (x y z : Octets) : Except Octets Bool :=
  if s.isBinary y then s.binary x y z
  else if y = ['-', 'a'] then .ok (one x && one z)
  else if y = ['-', 'o'] then .ok (one x || one z)
  else if x = ['!'] then (s.two y z).map not
  else if x = ['('] && z = [')'] then .ok (one y)
  else .error (s.wording.noBinary y)

mutual

/-- Conditions of which one holds, and the arguments that are left; the last argument before them
comes first. The number bounds the nesting. -/
def Setting.or (s : Setting) : Nat → Octets → List Octets → Except Octets (Bool × List Octets)
  | 0, _, args => .ok (false, args)
  | n + 1, before, args => do
      let (v, rest) ← s.and n before args
      match rest with
      | ['-', 'o'] :: more => do
          let (w, rest) ← s.or n ['-', 'o'] more
          return (v || w, rest)
      | rest => return (v, rest)

/-- Conditions that all hold. -/
def Setting.and (s : Setting) : Nat → Octets → List Octets → Except Octets (Bool × List Octets)
  | 0, _, args => .ok (false, args)
  | n + 1, before, args => do
      let (v, rest) ← s.term n before args
      match rest with
      | ['-', 'a'] :: more => do
          let (w, rest) ← s.and n ['-', 'a'] more
          return (v && w, rest)
      | rest => return (v, rest)

/-- A single condition. -/
def Setting.term (s : Setting) : Nat → Octets → List Octets → Except Octets (Bool × List Octets)
  | 0, _, args => .ok (false, args)
  | n + 1, before, args => match args with
    | [] => .error (s.wording.missing before)
    | ['!'] :: rest => do
        let (v, left) ← s.term n ['!'] rest
        return (!v, left)
    | ['('] :: rest => do
        let (v, left) ← s.or n ['('] rest
        match left with
        | [')'] :: more => return (v, more)
        | [] => .error (s.wording.noClosing none)
        | a :: _ => .error (s.wording.noClosing (some a))
    | x :: op :: y :: rest =>
        if s.isBinary op then do return (← s.binary x op y, rest)
        else if s.isUnary x then .ok (s.unary x op, y :: rest)
        else .ok (one x, op :: y :: rest)
    | [x, y] => if s.isUnary x then .ok (s.unary x y, []) else .ok (one x, [y])
    | [x] => .ok (one x, [])

end

/-- What arguments come to, by their number if there are few. -/
def evaluate (s : Setting) (args : List Octets) : Except Octets Bool :=
  match args with
  | [] => .ok false
  | [x] => .ok (one x)
  | [x, y] => s.two x y
  | [x, y, z] => s.three x y z
  | args => do
      match args with
      | [['!'], x, y, z] => return !(← s.three x y z)
      | [['('], x, y, [')']] => s.two x y
      | args =>
          let (v, rest) ← s.or (4 * args.length + 8) [] args
          match rest with
          | [] => return v
          | a :: _ => .error (s.wording.extra a)

/-- One argument alone is a condition on its being empty. -/
theorem evaluate_one (s : Setting) (x : Octets) : evaluate s [x] = .ok (!x.isEmpty) := rfl

end Condition

end Script

end LineShell
