import LineShell.Script.Pattern

/-!
# Regular expressions

Regular expressions with groups and references to them, in the basic and in the extended notation.
Of all fits at the first place where there is one, the longest counts.

Main statement: `search?_text`, by which a fit with what stands before and behind it is the text.
-/

namespace LineShell

namespace Script

/-- A regular expression. -/
inductive Regex where
  /-- The empty text. -/
  | empty
  /-- An octet in ranges, or in none of them; capitals may count as small letters. -/
  | set (negated folded : Bool) (ranges : List (Char × Char))
  /-- The beginning of the text. -/
  | start
  /-- The end of the text. -/
  | finish
  /-- The edge of a word: its beginning (`<`), its end (`>`), one of them (`b`) or none (`B`); or a
  place with no word on its left (`l`) or on its right (`r`). -/
  | edge (kind : Char)
  /-- One behind the other. -/
  | seq (r s : Regex)
  /-- One of two. -/
  | alt (r s : Regex)
  /-- Some number of times. -/
  | repeated (least : Nat) (most : Option Nat) (r : Regex)
  /-- A group with its number. -/
  | group (n : Nat) (r : Regex)
  /-- What a group has fitted. -/
  | back (n : Nat)
deriving Repr

namespace Regex

/-! ### Fitting -/

/-- A place in a text, with what groups have fitted. -/
structure Spot where
  /-- What stands before it, the last octet first. -/
  before : Octets
  /-- What stands behind it. -/
  rest : Octets
  /-- What groups have fitted, the latest first. -/
  groups : List (Nat × Octets)
deriving DecidableEq, Repr

/-- Whether an octet lies in ranges. -/
def isIn (folded : Bool) (ranges : List (Char × Char)) (c : Char) : Bool :=
  inRanges ranges c || (folded && (inRanges ranges c.toLower || inRanges ranges c.toUpper))

/-- Whether a place lies at an edge of a word. -/
def Spot.isEdge (s : Spot) (kind : Char) : Bool :=
  let left := s.before.head?.any isNameChar
  let right := s.rest.head?.any isNameChar
  match kind with
  | '<' => !left && right
  | '>' => left && !right
  | 'b' => left != right
  | 'l' => !left
  | 'r' => !right
  | _ => left == right

/-- A place so many octets further on. -/
def Spot.advance (s : Spot) (n : Nat) : Spot :=
  { s with before := (s.rest.take n).reverse ++ s.before, rest := s.rest.drop n }

/-- A place with what a group has fitted since another. -/
def Spot.withGroup (t : Spot) (n : Nat) (s : Spot) : Spot :=
  { t with groups := (n, s.rest.take (s.rest.length - t.rest.length)) :: t.groups }

/-- The places to which repeating leads; the step leads once. A step that gets nowhere is not
repeated. The number bounds the repetitions. -/
def repeatFrom (step : Spot → List Spot) (least : Nat) (most : Option Nat) :
    Nat → Nat → Spot → List Spot
  | 0, _, s => [s]
  | n + 1, k, s =>
      let further := if most.any (· ≤ k) then []
        else ((step s).flatMap fun t =>
          if t.rest.length < s.rest.length then repeatFrom step least most n (k + 1) t
          else if k < least then [t] else []).eraseDups
      if least ≤ k then further ++ [s] else further

/-- The places to which a regular expression leads, the preferred ones first. -/
def ends : Regex → Spot → List Spot
  | empty, s => [s]
  | set negated folded ranges, s => match s.rest with
    | c :: _ => if isIn folded ranges c != negated then [s.advance 1] else []
    | [] => []
  | start, s => if s.before.isEmpty then [s] else []
  | finish, s => if s.rest.isEmpty then [s] else []
  | edge kind, s => if s.isEdge kind then [s] else []
  | seq r t, s => ((ends r s).flatMap (ends t)).eraseDups
  | alt r t, s => ends r s ++ ends t s
  | repeated least most r, s =>
      repeatFrom (ends r) least most (s.rest.length + least + 1) 0 s
  | group n r, s => (ends r s).map (·.withGroup n s)
  | back n, s => match s.groups.lookup n with
    | some cs => if cs.isPrefixOf s.rest then [s.advance cs.length] else []
    | none => []

/-- The longest way on from a place; of those of one length the first. -/
def longest : List Spot → Option Spot
  | [] => none
  | s :: ss => match longest ss with
    | some t => if t.rest.length < s.rest.length then some t else some s
    | none => some s

/-- A fit in a text. -/
structure Found where
  /-- What stands before it. -/
  before : Octets
  /-- What is fitted. -/
  fitted : Octets
  /-- What stands behind it. -/
  behind : Octets
  /-- What groups have fitted. -/
  groups : List (Nat × Octets)
deriving DecidableEq, Repr

/-- The first place, after some octets that are left out, at which a regular expression fits. -/
def searchFrom (r : Regex) (before skipped : Octets) : Octets → Option Found
  | [] => match longest (ends r ⟨before, [], []⟩) with
    | some t => some ⟨skipped.reverse, [], [], t.groups⟩
    | none => none
  | c :: cs => match longest (ends r ⟨before, c :: cs, []⟩) with
    | some t =>
        let n := (c :: cs).length - t.rest.length
        some ⟨skipped.reverse, (c :: cs).take n, (c :: cs).drop n, t.groups⟩
    | none => searchFrom r (c :: before) (c :: skipped) cs

/-- The first fit in a text behind another one. -/
def search? (r : Regex) (before cs : Octets) : Option Found := searchFrom r before.reverse [] cs

/-- A fit with what stands before and behind it is the text. -/
theorem searchFrom_text {r : Regex} {before skipped cs : Octets} {f : Found}
    (h : searchFrom r before skipped cs = some f) :
    f.before ++ f.fitted ++ f.behind = skipped.reverse ++ cs := by
  induction cs generalizing before skipped with
  | nil =>
    simp only [searchFrom] at h
    split at h
    · cases h
      simp
    · cases h
  | cons c cs ih =>
    simp only [searchFrom] at h
    split at h
    · cases h
      simp
    · simpa using ih h

/-- A fit with what stands before and behind it is the text. -/
theorem search?_text {r : Regex} {before cs : Octets} {f : Found}
    (h : search? r before cs = some f) : f.before ++ f.fitted ++ f.behind = cs := by
  simpa using searchFrom_text h

/-- Whether a regular expression fits at the beginning of a text, and how. -/
def fitsAtStart? (r : Regex) (cs : Octets) : Option Found :=
  (longest (ends r ⟨[], cs, []⟩)).map fun t =>
    let n := cs.length - t.rest.length
    ⟨[], cs.take n, cs.drop n, t.groups⟩

/-! ### Reading -/

/-- What is wrong with a regular expression. -/
inductive Error where
  /-- A bracket is not closed. -/
  | bracket
  /-- A parenthesis is not closed. -/
  | opening
  /-- A parenthesis is not opened. -/
  | closing
  /-- A brace is not closed. -/
  | brace
  /-- What stands between braces is no range of numbers. -/
  | bounds
  /-- Nothing is there to be repeated. -/
  | nothingRepeated
  /-- A backslash is at the end. -/
  | backslash
  /-- A reference to a group that there is not. -/
  | reference
  /-- The ends of a range are the wrong way round. -/
  | range
  /-- There is no such class. -/
  | noClass
  /-- Something is to count as one octet that is none. -/
  | collation
  /-- Nothing stands behind a bracket. -/
  | nothing
  /-- A number of repetitions is too great. -/
  | tooBig
deriving DecidableEq, Repr

/-- The wording of an error. -/
def Error.message : Error → String
  | bracket => "Unmatched [, [^, [:, [., or [="
  | opening => "Unmatched ( or \\("
  | closing => "Unmatched ) or \\)"
  | brace => "Unmatched \\\x7b"
  | bounds => "Invalid content of \\\x7b\\\x7d"
  | nothingRepeated => "Invalid preceding regular expression"
  | backslash => "Trailing backslash"
  | reference => "Invalid back reference"
  | range => "Invalid range end"
  | noClass => "Invalid character class name"
  | collation => "Invalid collation character"
  | nothing => "Invalid regular expression"
  | tooBig => "Regular expression too big"

/-- The style in which regular expressions are written. -/
structure Style where
  /-- Whether marks have their meaning without a backslash. -/
  isExtended : Bool
  /-- Whether capitals count as small letters. -/
  folded : Bool
  /-- Whether a mark of repetition is a fault where nothing stands before it that can be repeated. -/
  isStrict : Bool
  /-- Whether a closing parenthesis is a fault where none is open. -/
  isBalanced : Bool

/-- The extended notation in which what makes no sense stands for itself. -/
def Style.extended (folded : Bool) : Style := ⟨true, folded, false, false⟩

/-- The basic notation in which what makes no sense stands for itself. -/
def Style.basic (folded : Bool) : Style := ⟨false, folded, false, true⟩

/-- A regular expression for one octet. -/
def Style.octet (n : Style) (c : Char) : Regex := .set false n.folded [(c, c)]

/-- The ranges for letters behind a backslash. -/
def letterRanges? : Char → Option (Bool × List (Char × Char))
  | 'w' => some (false, [('a', 'z'), ('A', 'Z'), ('0', '9'), ('_', '_')])
  | 'W' => some (true, [('a', 'z'), ('A', 'Z'), ('0', '9'), ('_', '_')])
  | 's' => some (false, [('\t', '\r'), (' ', ' ')])
  | 'S' => some (true, [('\t', '\r'), (' ', ' ')])
  | _ => none

/-- What stands between brackets: an octet, or the ranges of a class. -/
inductive BracketItem where
  /-- An octet. -/
  | octet (c : Char)
  /-- A class. -/
  | ranges (rs : List (Char × Char))

/-- The ranges of an item. -/
def BracketItem.all : BracketItem → List (Char × Char)
  | octet c => [(c, c)]
  | ranges rs => rs

/-- What stands before a mark and a closing bracket, and what stands behind them. -/
def cutAtMark (mark : Char) : Octets → Option (Octets × Octets)
  | [] => none
  | c :: cs =>
      if c = mark && cs.head? = some ']' then some ([], cs.drop 1)
      else (cutAtMark mark cs).map fun (name, rest) => (c :: name, rest)

/-- The first item of what stands between brackets, and the rest. -/
def bracketItem (c : Char) (cs : Octets) : Except Error (BracketItem × Octets) :=
  match c, cs with
  | '[', ':' :: rest => match cutAtMark ':' rest with
    | none => .error .bracket
    | some (name, rest) => match classRanges.lookup (String.ofList name) with
      | some rs => .ok (.ranges rs, rest)
      | none => .error .noClass
  | '[', m :: rest =>
      if m = '.' || m = '=' then match cutAtMark m rest with
        | none => .error .bracket
        | some ([d], rest) => .ok (.octet d, rest)
        | some _ => .error .collation
      else .ok (.octet '[', m :: rest)
  | c, cs => .ok (.octet c, cs)

/-- The ranges between brackets, and the rest behind them. The flag tells whether a closing bracket
would stand for itself; the number bounds the steps. -/
def bracketRanges : Nat → Bool → Octets → Except Error (List (Char × Char) × Octets)
  | 0, _, _ => .error .bracket
  | _, _, [] => .error .bracket
  | n + 1, first, c :: cs =>
      if c = ']' && !first then .ok ([], cs)
      else if c = '-' && !first && cs.head?.any (· != ']') then .error .range
      else do
        let (item, rest) ← bracketItem c cs
        let (rs, rest) ← match rest with
          | '-' :: d :: more =>
              if d = ']' then pure (item.all, rest)
              else do
                let (last, rest) ← bracketItem d more
                match item, last with
                | .octet a, .octet b => if b < a then throw .range else pure ([(a, b)], rest)
                | _, _ => throw .range
          | rest => pure (item.all, rest)
        let (more, rest) ← bracketRanges n false rest
        return (rs ++ more, rest)

/-- What stands between brackets. -/
def bracket (o : Style) (cs : Octets) : Except Error (Regex × Octets) := do
  let (negated, cs) := match cs with
    | '^' :: cs => (true, cs)
    | cs => (false, cs)
  if cs.isEmpty then throw .nothing
  else
    let (ranges, rest) ← bracketRanges (cs.length + 1) true cs
    return (.set negated o.folded ranges, rest)

/-- What a number of repetitions ends with. -/
inductive BoundEnd where
  /-- A comma. -/
  | comma
  /-- The closing brace. -/
  | close
  /-- The end of the text. -/
  | text
deriving DecidableEq, Repr

/-- A number of repetitions. -/
inductive Bound where
  /-- None is given. -/
  | absent
  /-- A number. -/
  | exact (n : Nat)
  /-- No number. -/
  | faulty
deriving DecidableEq, Repr

/-- A number of repetitions with a digit more. -/
def Bound.push (d : Char) : Bound → Bound
  | absent => if isAsciiDigit d then .exact (ofDigits [d]) else .faulty
  | exact n => if isAsciiDigit d then .exact (n * 10 + ofDigits [d]) else .faulty
  | faulty => .faulty

/-- A number of repetitions, what it ends with, and the rest. -/
def boundOf (o : Style) (b : Bound) : Octets → Bound × BoundEnd × Octets
  | [] => (b, .text, [])
  | ',' :: rest => (b, .comma, rest)
  | '\\' :: d :: rest =>
      if d = '\x7d' && !o.isExtended then (b, .close, rest) else boundOf o .faulty rest
  | d :: rest => if d = '\x7d' && o.isExtended then (b, .close, rest) else boundOf o (b.push d) rest

/-- The greatest number of repetitions. -/
def maxRepetitions : Nat := 32767

/-- The bounds between braces, and the rest behind them; nothing if they make no sense and the brace
stands for itself. -/
def bounds (o : Style) (cs : Octets) : Except Error (Option (Nat × Option Nat × Octets)) :=
  let (least, e, rest) := boundOf o .absent cs
  let least := if least = .absent && e = .comma then .exact 0 else least
  let (most, e, rest) := match least, e with
    | .exact _, .comma => boundOf o .absent rest
    | .exact _, .text => (.faulty, .text, rest)
    | _, e => (least, e, rest)
  let check (a : Nat) (b : Option Nat) : Except Error (Option (Nat × Option Nat × Octets)) :=
    if b.any (· < a) || e != .close then .error .bounds
    else if maxRepetitions < b.getD a then .error .tooBig
    else .ok (some (a, b, rest))
  match least, most with
  | .absent, _ => if e = .text then .error .brace else .error .bounds
  | .exact a, .exact b => check a (some b)
  | .exact a, .absent =>
      if e = .text then (if o.isExtended && !o.isStrict then .ok none else .error .brace)
      else check a none
  | _, _ =>
      if o.isExtended && !o.isStrict then .ok none
      else if e = .text then .error .brace
      else .error .bounds

/-- A mark of the notation in front of a text, without its backslash, and the rest. -/
def mark? (o : Style) (cs : Octets) : Option (Char × Octets) :=
  match o.isExtended, cs with
  | true, c :: cs => if "()|+?\x7b*".toList.contains c then some (c, cs) else none
  | false, '*' :: cs => some ('*', cs)
  | false, '\\' :: c :: cs => if "()|+?\x7b".toList.contains c then some (c, cs) else none
  | _, _ => none

/-- Repetitions behind an expression. The number bounds the steps. -/
def repetitions (o : Style) : Nat → Regex → Octets → Except Error (Regex × Octets)
  | 0, r, cs => .ok (r, cs)
  | n + 1, r, cs =>
      let go (r : Regex) (rest : Octets) : Except Error (Regex × Octets) :=
        if o.isStrict && !o.isExtended &&
            (mark? o rest).any (fun m => m.1 == '*' || m.1 == '\x7b') then
          .error .nothingRepeated
        else repetitions o n r rest
      match mark? o cs with
      | some ('*', rest) => go (.repeated 0 none r) rest
      | some ('+', rest) => go (.repeated 1 none r) rest
      | some ('?', rest) => go (.repeated 0 (some 1) r) rest
      | some ('\x7b', rest) => do
          match ← bounds o rest with
          | some (least, most, rest) => go (.repeated least most r) rest
          | none => return (r, cs)
      | _ => .ok (r, cs)

/-- A reader of a regular expression: the number of groups so far, and the text. -/
abbrev Reader := Nat → Octets → Except Error (Regex × Nat × Octets)

/-- A single expression; alternatives are read by the last argument. -/
def atom (o : Style) (inner : Reader) : Reader := fun k cs =>
  match mark? o cs, cs with
  | some ('(', rest), _ => do
      let (r, m, rest) ← inner (k + 1) rest
      match mark? o rest with
      | some (')', rest) => return (.group (k + 1) r, m, rest)
      | _ => throw .opening
  | some (m, rest), _ =>
      if o.isStrict && (o.isExtended || m = '\x7b') then .error .nothingRepeated
      else if o.isExtended && m ≠ '\x7b' then .ok (.empty, k, rest)
      else .ok (o.octet m, k, rest)
  | none, '.' :: rest => .ok (.set true false [], k, rest)
  | none, '[' :: rest => do
      let (r, rest) ← bracket o rest
      return (r, k, rest)
  | none, '\\' :: c :: rest =>
      if c = '<' || c = '>' || c = 'b' || c = 'B' then .ok (.edge c, k, rest)
      else if c = '\u0060' then .ok (.start, k, rest)
      else if c = '\'' then .ok (.finish, k, rest)
      else match letterRanges? c with
        | some (negated, ranges) => .ok (.set negated false ranges, k, rest)
        | none =>
            if '1' ≤ c && c ≤ '9' then
              if c.toNat - 48 ≤ k then .ok (.back (c.toNat - 48), k, rest) else .error .reference
            else if c = 'n' then .ok (o.octet '\n', k, rest)
            else if c = 't' then .ok (o.octet '\t', k, rest)
            else .ok (o.octet c, k, rest)
  | none, ['\\'] => .error .backslash
  | none, c :: rest => .ok (o.octet c, k, rest)
  | none, [] => .ok (.empty, k, [])

/-- Whether an expression ends in front of a text. -/
def endsBefore (o : Style) (cs : Octets) : Bool :=
  cs.isEmpty || (mark? o cs).any fun m => m.1 == '|' || m.1 == ')'

/-- Expressions one behind the other. The number bounds the steps. -/
def sequence (o : Style) (inner : Reader) : Nat → Bool → Reader
  | 0, _ => fun k cs => .ok (.empty, k, cs)
  | n + 1, atStart => fun k cs =>
      if endsBefore o cs then .ok (.empty, k, cs)
      else match cs with
        | '^' :: rest =>
            if atStart || o.isExtended then do
              let (s, k, rest) ← sequence o inner n true k rest
              return (.seq .start s, k, rest)
            else one n k cs
        | '$' :: rest =>
            if endsBefore o rest || o.isExtended then do
              let (s, k, rest) ← sequence o inner n false k rest
              return (.seq .finish s, k, rest)
            else one n k cs
        | cs => do
            let (r, k, rest) ← atom o inner k cs
            let (r, rest) ← repetitions o rest.length r rest
            let (s, k, rest) ← sequence o inner n false k rest
            return (.seq r s, k, rest)
where
  /-- A mark that stands for itself, with what is behind it. -/
  one (n : Nat) : Reader := fun k cs => do
    let (r, rest) ← repetitions o cs.length (o.octet (cs.headD ' ')) (cs.drop 1)
    let (s, k, rest) ← sequence o inner n false k rest
    return (.seq r s, k, rest)

/-- Alternatives. The number bounds the nesting and their number. -/
def alternatives (o : Style) : Nat → Reader
  | 0 => fun k cs => .ok (.empty, k, cs)
  | n + 1 => fun k cs => do
      let (r, k, rest) ← sequence o (alternatives o n) (cs.length + 1) true k cs
      match mark? o rest with
      | some ('|', rest) => do
          let (s, k, rest) ← alternatives o n k rest
          return (.alt r s, k, rest)
      | _ => return (r, k, rest)

/-- A regular expression and the rest of a text behind it, in which closing parentheses that nothing
opens stand for themselves. The number bounds them. -/
def readRest (o : Style) : Nat → Reader
  | 0 => fun k cs => .ok (.empty, k, cs)
  | n + 1 => fun k cs => do
      let (r, k, rest) ← alternatives o (cs.length + 1) k cs
      match mark? o rest with
      | some (')', rest) => do
          let (s, k, rest) ← readRest o n k rest
          return (.seq r (.seq (o.octet ')') s), k, rest)
      | _ => return (r, k, rest)

/-- The regular expression that a text writes. -/
def read (o : Style) (cs : Octets) : Except Error Regex := do
  if !o.isBalanced then
    let (r, _, _) ← readRest o (cs.length + 1) 0 cs
    return r
  else
    let (r, _, rest) ← alternatives o (cs.length + 1) 0 cs
    if rest.isEmpty then return r else throw .closing

/-- A regular expression that fits a whole text. -/
def asWhole (r : Regex) : Regex := .seq .start (.seq r .finish)

/-- A regular expression that fits whole words. -/
def asWord (r : Regex) : Regex := .seq (.edge 'l') (.seq r (.edge 'r'))

/-- A regular expression for a text as it stands. -/
def ofOctets (folded : Bool) (cs : Octets) : Regex :=
  cs.foldr (fun c r => .seq (.set false folded [(c, c)]) r) .empty

end Regex

end Script

end LineShell
