import LineShell.Script.Regex
import LineShell.Script.Tool.Lines
import LineShell.Script.Tool.Print

/-!
# Tools that match

Tools that look for regular expressions in lines, and that evaluate expressions on their arguments.
-/

namespace LineShell

namespace Script

/-! ### Looking for lines -/

namespace Matching

/-- What is looked for, and what is done about it. -/
structure Request where
  /-- The regular expressions. -/
  patterns : List Regex
  /-- The options. -/
  arguments : Tool.Arguments
  /-- Whether the names of files are written. -/
  titled : Bool
  /-- How many lines are written before a line that is found. -/
  before : Nat
  /-- How many lines are written behind a line that is found. -/
  behind : Nat

/-- The first fit in a line behind some of it: the longest of those at the first place. -/
def Request.find? (q : Request) (before cs : Octets) : Option Regex.Found :=
  (q.patterns.filterMap fun r => r.search? before cs).foldl (fun best f =>
    match best with
    | none => some f
    | some b =>
        if f.before.length < b.before.length ∨
            (f.before.length = b.before.length ∧ b.fitted.length < f.fitted.length) then some f
        else some b) none

/-- The fits in a line that are not empty. The number bounds them. -/
def Request.allFits (q : Request) : Nat → Octets → Octets → List Octets
  | 0, _, _ => []
  | n + 1, before, cs => match q.find? before cs with
    | none => []
    | some f =>
        if f.fitted.isEmpty then match f.behind with
          | [] => []
          | c :: rest => q.allFits n (before ++ f.before ++ [c]) rest
        else f.fitted :: q.allFits n (before ++ f.before ++ f.fitted) f.behind

/-- A line with its number, where it begins, and whether it is looked for. -/
structure Line where
  /-- Its number. -/
  number : Nat
  /-- How many octets stand before it. -/
  offset : Nat
  /-- The line. -/
  octets : Octets
  /-- Whether it is looked for. -/
  isFound : Bool

/-- The lines of a text with what is to be known about them; only so many are found. -/
def Request.linesOf (q : Request) : Nat → Nat → Nat → List Octets → List Line
  | _, _, _, [] => []
  | most, n, offset, l :: ls =>
      let found := 0 < most && ((q.find? [] l).isSome != q.arguments.has 'v')
      ⟨n, offset, l, found⟩ ::
        q.linesOf (if found then most - 1 else most) (n + 1) (offset + l.length + 1) ls

/-- What stands before a line. -/
def Request.heading (q : Request) (name : Octets) (mark : Char) (l : Line) : Octets :=
  (if q.titled then name ++ [mark] else []) ++
    (if q.arguments.has 'n' then Numeral.digits l.number ++ [mark] else []) ++
    (if q.arguments.has 'b' then Numeral.digits l.offset ++ [mark] else [])

/-- The lines that are shown: those that are found and those around them. -/
def Request.shown (q : Request) (ls : List Line) : List Line :=
  let found := (ls.filter Line.isFound).map Line.number
  ls.filter fun l => found.any fun n => n ≤ l.number + q.before && l.number ≤ n + q.behind

/-- Lines with marks between those that are not neighbours. -/
def Request.joined (q : Request) (name : Octets) : Option Nat → List Line → List Octets
  | _, [] => []
  | last, l :: ls =>
      let gap := (q.before + q.behind > 0) && last.any (· + 1 < l.number)
      let line := q.heading name (if l.isFound then ':' else '-') l ++ l.octets
      (if gap then [['-', '-']] else []) ++ line :: q.joined name (some l.number) ls

/-- Whether lines are written, and not only something about files. -/
def Request.showsLines (q : Request) : Bool := !(['q', 'l', 'L', 'c'].any q.arguments.has)

/-- What is written about a file. -/
def Request.report (q : Request) (name : Octets) (cs : Octets) : Octets × Bool :=
  let a := q.arguments
  let most := ((a.value? 'm').bind Tool.number?).getD cs.length
  let ls := q.linesOf (if a.has 'm' then most else cs.length + 1) 1 0 (Script.linesOf cs)
  let count := (ls.filter Line.isFound).length
  let out :=
    if a.has 'q' then []
    else if a.has 'l' then (if 0 < count then name ++ ['\n'] else [])
    else if a.has 'L' then (if count = 0 then name ++ ['\n'] else [])
    else if a.has 'c' then
      (if q.titled then name ++ [':'] else []) ++ Numeral.digits count ++ ['\n']
    else if a.has 'o' then
      unlines ((ls.filter Line.isFound).flatMap fun l =>
        (q.allFits (l.octets.length + 1) [] l.octets).map (q.heading name ':' l ++ ·))
    else unlines (q.joined name none (q.shown ls))
  (out, 0 < count)

end Matching

namespace Tool

/-- The options for looking for lines. -/
def grepRules : OptionRules :=
  ⟨"A:B:C:D:EFGHILPTUVX:abcd:e:f:hiLlm:noqRrsuvwxyZzβ:γ:δηκ::λ:μνξ:σ:φ:ψ:",
    [("basic-regexp", 'G'), ("extended-regexp", 'E'), ("fixed-regexp", 'F'),
      ("fixed-strings", 'F'), ("perl-regexp", 'P'), ("after-context", 'A'),
      ("before-context", 'B'), ("binary-files", 'β'), ("byte-offset", 'b'), ("context", 'C'),
      ("color", 'κ'), ("colour", 'κ'), ("count", 'c'), ("devices", 'D'), ("directories", 'd'),
      ("exclude", 'ξ'), ("exclude-from", 'φ'), ("exclude-dir", 'ψ'), ("file", 'f'),
      ("files-with-matches", 'l'), ("files-without-match", 'L'), ("group-separator", 'γ'),
      ("help", manualLetter), ("include", 'σ'), ("ignore-case", 'i'), ("no-ignore-case", 'ν'),
      ("initial-tab", 'T'), ("label", 'λ'), ("line-buffered", 'μ'), ("line-number", 'n'),
      ("line-regexp", 'x'), ("max-count", 'm'), ("no-filename", 'h'), ("no-group-separator", 'δ'),
      ("no-messages", 's'), ("null", 'Z'), ("null-data", 'z'), ("only-matching", 'o'),
      ("quiet", 'q'), ("recursive", 'r'), ("dereference-recursive", 'R'), ("regexp", 'e'),
      ("invert-match", 'v'), ("silent", 'q'), ("text", 'a'), ("binary", 'U'),
      ("unix-byte-offsets", 'u'), ("version", 'V'), ("with-filename", 'H'),
      ("word-regexp", 'w')], true, 2⟩

/-- The regular expression for a pattern. -/
def patternOf (c : Call) (a : Arguments) (extended fixed : Bool) (p : Octets) : Task Regex := do
  let folded := a.has 'i' || a.has 'y'
  let r ← if fixed then pure (Regex.ofOctets folded p)
    else match Regex.read (if extended then .extended folded else .basic folded) p with
      | .ok r => pure r
      | .error e => failWith c 2 (octetsOf e.message)
  return if a.has 'x' then r.asWhole else if a.has 'w' then r.asWord else r

/-- The paths of the files in directories. The number bounds their depth. -/
def filesBelow : Nat → Octets → Node → List Octets
  | 0, _, _ => []
  | k + 1, path, .directory es => es.flatMap fun e =>
      let name := octetsOf e.1
      filesBelow k (if path.getLast? = some '/' then path ++ name else path ++ '/' :: name) e.2
  | _, _, .link _ => []
  | _, path, _ => [path]

/-- What is said about operators of an extended expression that have nothing before them. The flag
tells whether nothing stands there; the number bounds the steps. -/
def idleOperators : Nat → Bool → Octets → List Octets
  | 0, _, _ => []
  | _, _, [] => []
  | n + 1, atStart, c :: cs =>
      if c = '\\' then idleOperators n false (cs.drop 1)
      else if c = '[' then
        let first := if cs.head? = some '^' then 2 else 1
        idleOperators n false ((cs.drop first).dropWhile (· != ']'))
      else if c = '(' || c = '|' || c = '^' then idleOperators n true cs
      else if atStart && "*+?".toList.contains c then
        ([c] ++ octetsOf " at start of expression") :: idleOperators n true cs
      else if atStart && c = '\x7b' && cs.head?.any isAsciiDigit then
        octetsOf "\x7b...\x7d at start of expression" ::
          idleOperators n true ((cs.dropWhile (· != '\x7d')).drop 1)
      else idleOperators n false cs

/-- Looking for lines in files. -/
def grepWith (extended fixed : Bool) : Tool := fun c => do
  let a ← match readOptions grepRules c.args with
    | .ok a => pure a
    | .error f => do
        say c f.message
        usage c
  let given := (a.options.filter (·.1 == 'e')).map Prod.snd
  let (texts, names) ← if !given.isEmpty then pure (given, a.operands)
    else match a.operands with
      | p :: names => pure ([p], names)
      | [] => usage c
  let recursive := a.has 'r' || a.has 'R'
  let extended := (extended || a.has 'E' || a.has 'P') && !a.has 'G'
  let fixed := fixed || a.has 'F'
  let patterns ← (texts.flatMap (·.splitOn '\n')).mapM (patternOf c a extended fixed)
  if extended && !fixed then
    texts.forM fun p => (idleOperators (p.length + 1) true p).forM fun m =>
      say c (octetsOf "warning: " ++ m)
  let number (k : Char) : Nat := ((a.value? k).bind number?).getD (((a.value? 'C').bind
    number?).getD 0)
  let titled := (names.length > 1 || recursive || a.has 'H') && !a.has 'h'
  let q : Matching.Request := ⟨patterns, a, titled, number 'B', number 'A'⟩
  let names := if names.isEmpty then [if recursive then ['.'] else ['-']] else names
  let names ← if recursive then names.mapM fun n => do
      match ← node n with
      | .ok d => return filesBelow 1000 n d
      | .error _ => return [n]
    else pure (names.map fun n => [n])
  let results ← names.flatten.mapM fun n => do
    let shown := if n = ['-'] then octetsOf "(standard input)" else n
    match ← readSource n with
    | .error e => do
        if !a.has 's' then say c (n ++ octetsOf ": " ++ octetsOf e)
        return (false, true)
    | .ok cs =>
        let (out, found) := q.report shown cs
        if cs.contains '\x00' && !(a.has 'a' || a.has 'z') && q.showsLines then
          if !out.isEmpty then say c (shown ++ octetsOf ": binary file matches")
        else write out
        return (found, false)
  let found := results.any Prod.fst
  if results.any Prod.snd && !(found && a.has 'q') then return 2
  else return if found then 0 else 1
where
  /-- Ending with what may be written. -/
  usage {α : Type} (c : Call) : Task α := do
    complain (octetsOf "Usage: " ++ c.name ++ octetsOf " [OPTION]... PATTERNS [FILE]...")
    pointToManual c
    throw 2

/-- Looking for basic regular expressions. -/
def grep : Tool := grepWith false false

/-- Looking for extended regular expressions. -/
def egrep : Tool := grepWith true false

/-- Looking for texts. -/
def fgrep : Tool := grepWith false true

/-! ### Expressions on arguments -/

/-- Whether a value counts as nothing: it is empty or a zero. -/
def isNothing (cs : Octets) : Bool :=
  match cs with
  | [] => true
  | '-' :: ds => !ds.isEmpty && ds.all (· == '0')
  | ds => ds.all (· == '0')

/-- The whole number that a value writes. -/
def whole? (cs : Octets) : Option Int :=
  match cs with
  | '-' :: ds => if !ds.isEmpty && ds.all isAsciiDigit then some (-(ofDigits ds : Int)) else none
  | ds => if !ds.isEmpty && ds.all isAsciiDigit then some (ofDigits ds) else none

/-- What is wrong with an expression on arguments. -/
abbrev Reading := Except Octets

/-- What is said about a missing argument. -/
def missingBehind {α : Type} (last : Octets) : Reading α :=
  .error (octetsOf "syntax error: missing argument after " ++ quoteText last)

/-- A whole number, or what is said instead. -/
def wholeOf (cs : Octets) : Reading Int :=
  match whole? cs with
  | some n => .ok n
  | none => .error (octetsOf "non-integer argument")

/-- The operators of each level, the loosest first. -/
def levels : List (List String) :=
  [["|"], ["&"], ["<", "<=", "=", "==", "!=", ">=", ">"], ["+", "-"], ["*", "/", "%"], [":"]]

/-- What a pattern fits at the beginning of a value: its first group, or its length. -/
def matchValue (x pattern : Octets) : Reading Octets := do
  match Regex.read (.basic false) pattern with
  | .error e => .error (octetsOf e.message)
  | .ok r =>
      let hasGroup := (List.range pattern.length).any fun i =>
        (pattern.drop i).take 2 == ['\\', '(']
      match r.fitsAtStart? x with
      | some f =>
          if hasGroup then return (f.groups.lookup 1).getD []
          else return Numeral.digits f.fitted.length
      | none => return if hasGroup then [] else ['0']

/-- What an operator makes of two values. -/
def applyValues (op : String) (x y : Octets) : Reading Octets := do
  let truth (b : Bool) : Octets := if b then ['1'] else ['0']
  let compare (f : Int → Int → Bool) (g : Octets → Octets → Bool) : Octets :=
    match whole? x, whole? y with
    | some a, some b => truth (f a b)
    | _, _ => truth (g x y)
  let arithmetic (f : Int → Int → Int) : Reading Octets := do
    let a ← wholeOf x
    let b ← wholeOf y
    return Numeral.signedDigits (f a b)
  let division (f : Int → Int → Int) : Reading Octets := do
    let a ← wholeOf x
    let b ← wholeOf y
    if b = 0 then .error (octetsOf "division by zero") else return Numeral.signedDigits (f a b)
  match op with
  | "|" => return if !isNothing x then x else if !isNothing y then y else ['0']
  | "&" => return if isNothing x || isNothing y then ['0'] else x
  | "<" => return compare (· < ·) fun x y => !octetsLe y x
  | "<=" => return compare (· ≤ ·) octetsLe
  | "=" => return compare (· == ·) (· == ·)
  | "==" => return compare (· == ·) (· == ·)
  | "!=" => return compare (· != ·) (· != ·)
  | ">=" => return compare (fun a b => b ≤ a) fun x y => octetsLe y x
  | ">" => return compare (fun a b => b < a) fun x y => !octetsLe x y
  | "+" => arithmetic (· + ·)
  | "-" => arithmetic (· - ·)
  | "*" => arithmetic (· * ·)
  | "/" => division Int.tdiv
  | "%" => division Int.tmod
  | _ => matchValue x y

/-- A piece of a text by its first place and its length. -/
def pieceOf (cs start length : Octets) : Octets :=
  match whole? start, whole? length with
  | some a, some n => if a < 1 || n < 1 then [] else (cs.drop (a.toNat - 1)).take n.toNat
  | _, _ => []

mutual

/-- The value of arguments by the operators of levels, and the arguments that are left; the argument
before them comes first. The number bounds the nesting. -/
def valueOf : Nat → List (List String) → Octets → List Octets → Reading (Octets × List Octets)
  | 0, _, _, args => .ok ([], args)
  | n + 1, [], before, args => operand n before args
  | n + 1, ops :: rest, before, args => do
      let (x, left) ← valueOf n rest before args
      moreOf n ops rest x left

/-- A value with the operators of a level behind it. -/
def moreOf : Nat → List String → List (List String) → Octets → List Octets →
    Reading (Octets × List Octets)
  | 0, _, _, x, args => .ok (x, args)
  | n + 1, ops, rest, x, args => match args with
    | op :: more =>
        if ops.contains (String.ofList op) then do
          let (y, left) ← valueOf n rest op more
          moreOf n ops rest (← applyValues (String.ofList op) x y) left
        else .ok (x, args)
    | [] => .ok (x, [])

/-- A single value. -/
def operand : Nat → Octets → List Octets → Reading (Octets × List Octets)
  | 0, _, args => .ok ([], args)
  | n + 1, before, args => match args with
    | [] => missingBehind before
    | w :: rest =>
        if w = ['+'] then match rest with
          | [] => missingBehind w
          | x :: more => .ok (x, more)
        else if w = octetsOf "length" && !rest.isEmpty then do
          let (x, left) ← operand n w rest
          return (Numeral.digits x.length, left)
        else if w = octetsOf "match" && !rest.isEmpty then do
          let (x, left) ← operand n w rest
          let (y, left) ← operand n x left
          return (← matchValue x y, left)
        else if w = octetsOf "index" && !rest.isEmpty then do
          let (x, left) ← operand n w rest
          let (y, left) ← operand n x left
          return (Numeral.digits ((x.findIdx? y.contains).elim 0 (· + 1)), left)
        else if w = octetsOf "substr" && !rest.isEmpty then do
          let (x, left) ← operand n w rest
          let (y, left) ← operand n x left
          let (z, left) ← operand n y left
          return (pieceOf x y z, left)
        else if w = ['('] then do
          let (x, left) ← valueOf n levels w rest
          match left with
          | [')'] :: more => return (x, more)
          | [] => .error (octetsOf "syntax error: expecting ')' after " ++
              quoteText (rest.getLast?.getD []))
          | y :: _ => .error (octetsOf "syntax error: expecting ')' instead of " ++ quoteText y)
        else if w = [')'] then .error (octetsOf "syntax error: unexpected ')'")
        else .ok (w, rest)

end

/-- Evaluating an expression on arguments. -/
def expr : Tool := fun c => do
  let args := if c.args.head? = some ['-', '-'] then c.args.drop 1 else c.args
  if args.isEmpty then failUsage c 2 (octetsOf "missing operand")
  else match valueOf (20 * args.length + 20) levels [] args with
    | .error e => failWith c 2 e
    | .ok (_, extra :: _) =>
        failWith c 2 (octetsOf "syntax error: unexpected argument " ++ quoteText extra)
    | .ok (v, []) => do
        write (v ++ ['\n'])
        return if isNothing v then 1 else 0

end Tool

end Script

end LineShell
