import LineShell.Script.Escape
import LineShell.Script.Pattern
import LineShell.Script.Tool.Lines

/-!
# Sets of characters

A tool that replaces and leaves out octets of sets.

Main statement: `translate_of_not_mem`, by which an octet outside the set stands for itself.
-/

namespace LineShell

namespace Script

namespace Characters

/-! ### Sets -/

/-- An element of a set. -/
inductive Element where
  /-- Octets. -/
  | octets (cs : Octets)
  /-- The octets of a class with its name. -/
  | ofClass (name : String) (cs : Octets)
  /-- The octets that count as one and the same. -/
  | alike (c : Char)
  /-- An octet that is repeated as often as it takes. -/
  | filling (c : Char)
deriving DecidableEq, Repr

/-- The octets of an element that is not repeated. -/
def Element.known : Element → Octets
  | octets cs => cs
  | ofClass _ cs => cs
  | alike c => [c]
  | filling _ => []

/-- Whether an element is repeated as often as it takes. -/
def Element.isFilling : Element → Bool
  | filling _ => true
  | _ => false

/-- The name of the class that an element is. -/
def Element.className? : Element → Option String
  | ofClass name _ => some name
  | _ => none

/-- Whether an element stands for letters of one case. -/
def Element.isCase (e : Element) : Bool :=
  e.className?.any fun n => n == "upper" || n == "lower"

/-- What is wrong with a set. -/
inductive SetError where
  /-- A range whose ends are the wrong way round. -/
  | reversed (a b : Char)
  /-- There is no class of that name. -/
  | noClass (name : Octets)
  /-- A class has no name. -/
  | unnamedClass
  /-- Several octets are to count as one. -/
  | notSingle (cs : Octets)
  /-- Nothing is to count as one. -/
  | nothingAlike
  /-- What tells how often an octet is repeated is no number. -/
  | badCount (cs : Octets)
deriving DecidableEq, Repr

/-- An octet as it can be printed. -/
def printable (c : Char) : Octets :=
  if 32 ≤ c.toNat && c.toNat < 127 then [c]
  else '\\' :: [c.toNat / 64, c.toNat / 8 % 8, c.toNat % 8].map fun d => Char.ofNat (48 + d)

/-- The wording of a fault of a set. -/
def SetError.message : SetError → Octets
  | reversed a b => octetsOf "range-endpoints of '" ++ printable a ++ '-' :: printable b ++
      octetsOf "' are in reverse collating sequence order"
  | noClass name => octetsOf "invalid character class '" ++ name.flatMap printable ++ ['\'']
  | unnamedClass => octetsOf "missing character class name '[::]'"
  | notSingle cs => cs.flatMap printable ++
      octetsOf ": equivalence class operand must be a single character"
  | nothingAlike => octetsOf "missing equivalence class character '[==]'"
  | badCount cs => octetsOf "invalid repeat count '" ++ cs.flatMap printable ++
      octetsOf "' in [c*n] construct"

/-- An octet of a set, and whether a backslash stood before it. -/
abbrev SetChar := Char × Bool

/-- The octets of the text of a set, with the escapes in it read. The number bounds the steps. -/
def setChars : Nat → Octets → List SetChar
  | 0, _ => []
  | _, [] => []
  | n + 1, '\\' :: c :: cs =>
      if isOctal c then
        let (ds, rest) := takeAtMost isOctal 3 (c :: cs)
        if ofBase 8 ds < 256 then (octet (ofBase 8 ds), true) :: setChars n rest
        else
          let (ds, rest) := takeAtMost isOctal 2 (c :: cs)
          (octet (ofBase 8 ds), true) :: setChars n rest
      else ((letterEscape? c).getD c, true) :: setChars n cs
  | n + 1, c :: cs => (c, false) :: setChars n cs

/-- What is said about escapes that are not clear. The number bounds the steps. -/
def setRemarks : Nat → Octets → List Octets
  | 0, _ => []
  | _, [] => []
  | _, ['\\'] => [octetsOf "warning: an unescaped backslash at end of string is not portable"]
  | n + 1, '\\' :: c :: cs =>
      let (ds, rest) := takeAtMost isOctal 3 (c :: cs)
      if ds.length = 3 && 256 ≤ ofBase 8 ds then
        (octetsOf "warning: the ambiguous octal escape \\" ++ ds ++
          octetsOf " is being\n\tinterpreted as the 2-byte sequence \\0" ++ ds.take 2 ++
            octetsOf ", " ++ ds.drop 2) :: setRemarks n (ds.drop 2 ++ rest)
      else setRemarks n (if ds.isEmpty then cs else rest)
  | n + 1, _ :: cs => setRemarks n cs

/-- The octets between two, both included. -/
def range (a b : Char) : Octets :=
  (List.range (b.toNat + 1 - a.toNat)).map fun i => Char.ofNat (a.toNat + i)

/-- The octets of a class by its name. -/
def classOctets? (name : Octets) : Option Octets :=
  (classRanges.lookup (String.ofList name)).map fun rs =>
    let all := range '\x00' (Char.ofNat 255)
    all.filter fun c => rs.any fun r => r.1 ≤ c && c ≤ r.2

/-- What stands before a mark and a closing bracket, and what stands behind them. -/
def cutAtClosing (mark : Char) : List SetChar → Option (Octets × List SetChar)
  | (a, p) :: (b, q) :: rest =>
      if a = mark && b = ']' && !p && !q then some ([], rest)
      else (cutAtClosing mark ((b, q) :: rest)).map fun (cs, more) => (a :: cs, more)
  | _ => none

/-- Whether a text goes on with a star, digits and a closing bracket. -/
def isCounted : List SetChar → Bool
  | ('*', false) :: rest => (rest.dropWhile fun c => isAsciiDigit c.1).head? == some (']', false)
  | _ => false

/-- How often an octet is repeated, which stands before a closing bracket; behind it the text goes on.
It is nothing if there is no such bracket. -/
def repetition? (rest : List SetChar) : Option (Except SetError Nat × List SetChar) :=
  let inner := rest.takeWhile fun c => !c.2 && c.1 != ']'
  match rest.drop inner.length with
  | (']', false) :: more =>
      let ds := inner.map Prod.fst
      let isOctalCount := ds.head? == some '0'
      let isCount := if isOctalCount then ds.all isOctal else ds.all isAsciiDigit
      let n := if isOctalCount then ofBase 8 ds else ofDigits ds
      some (if isCount && n < 2 ^ 63 then .ok n else .error (.badCount ds), more)
  | _ => none

/-- The elements of a set. The number bounds the steps. -/
def elements : Nat → List SetChar → Except SetError (List Element)
  | 0, _ => .ok []
  | _, [] => .ok []
  | n + 1, ss =>
      let single (ss : List SetChar) : Except SetError (List Element) :=
        match ss with
        | (a, _) :: ('-', false) :: (b, _) :: rest =>
            if b < a then .error (.reversed a b)
            else do return .octets (range a b) :: (← elements n rest)
        | (c, _) :: rest => do return .octets [c] :: (← elements n rest)
        | [] => .ok []
      let repeated (ss : List SetChar) : Except SetError (List Element) :=
        match ss with
        | ('[', false) :: (c, _) :: ('*', false) :: rest => match repetition? rest with
          | some (count, more) => do
              let times ← count
              let e := if times = 0 then Element.filling c
                else .octets (List.replicate times c)
              return e :: (← elements n more)
          | none => single ss
        | ss => single ss
      match ss with
      | ('[', false) :: (':', false) :: rest => match cutAtClosing ':' rest with
        | none => repeated ss
        | some ([], _) => .error .unnamedClass
        | some (name, more) => match classOctets? name with
          | some cs => do return .ofClass (String.ofList name) cs :: (← elements n more)
          | none => if isCounted rest then repeated ss else .error (.noClass name)
      | ('[', false) :: ('=', false) :: rest => match cutAtClosing '=' rest with
        | none => repeated ss
        | some ([], _) => .error .nothingAlike
        | some ([c], more) => do return .alike c :: (← elements n more)
        | some (cs, _) => if isCounted rest then repeated ss else .error (.notSingle cs)
      | ss => repeated ss

/-- The elements of the set that a text writes. -/
def readSet (cs : Octets) : Except SetError (List Element) :=
  let ss := setChars cs.length cs
  elements ss.length ss

/-- The octets of elements, filled up to a length. -/
def octetsOfSet (length : Nat) (es : List Element) : Octets :=
  let known := (es.map fun e => e.known.length).sum
  es.flatMap fun
    | .filling c => List.replicate (length - known) c
    | e => e.known

/-- The octets that are not in a set. -/
def complement (set : Octets) : Octets :=
  (range '\x00' (Char.ofNat 255)).filter fun c => !set.contains c

/-- Whether all letters of one case in a set face letters of one case in the other. -/
def areAligned : List Element → List Element → Bool
  | old, new =>
      let starts (es : List Element) : List Nat :=
        let lengths := es.map fun e => if e.isCase then 1 else e.known.length
        ((List.range es.length).zip es).filterMap fun (i, e) =>
          if e.isCase then some (lengths.take i).sum else none
      (starts new).all (starts old).contains

/-- The octet that fills up a set, which is its last one; a class at its end cannot be filled up. -/
def isExtensible (es : List Element) : Bool := (es.getLast?.bind Element.className?).isNone

/-- How sets are used. -/
structure SetUse where
  /-- Whether octets of the second stand in for those of the first. -/
  replaces : Bool
  /-- Whether the first stands for the octets that are not in it. -/
  complements : Bool
  /-- Whether the first ends where the second does. -/
  truncates : Bool

/-- Why two sets cannot be used as they are to be. -/
def SetUse.fault? (u : SetUse) (old : List Element) (new? : Option (List Element)) :
    Option String :=
  let oldOctets := octetsOfSet 0 old
  let oldOctets := if u.complements then complement oldOctets else oldOctets
  if old.any Element.isFilling then
    some "the [c*] repeat construct may not appear in string1"
  else match new? with
    | none => none
    | some new =>
        let newOctets := octetsOfSet oldOctets.length new
        if 1 < (new.filter Element.isFilling).length then
          some "only one [c*] repeat construct may appear in string2"
        else if !u.replaces then
          if new.any Element.isFilling then
            some "the [c*] construct may appear in string2 only when translating"
          else none
        else if new.any fun e => match e with
            | .alike _ => true
            | _ => false then
          some "[=c=] expressions may not appear in string2 when translating"
        else if new.any fun e => e.className?.isSome && !e.isCase then
          some "when translating, the only character classes that may appear in\nstring2 are 'upper' and 'lower'"
        else if !u.complements && !areAligned old new then
          some "misaligned [:upper:] and/or [:lower:] construct"
        else if newOctets.length < oldOctets.length && !u.truncates && newOctets.isEmpty then
          some "when not truncating set1, string2 must be non-empty"
        else if newOctets.length < oldOctets.length && !u.truncates && !isExtensible new then
          some "when translating with string1 longer than string2,\nthe latter string must not end with a character class"
        else if u.complements && (old.any fun e => e.className?.isSome) &&
            !((newOctets.length ≤ oldOctets.length && !u.truncates ||
              newOctets.length = oldOctets.length) &&
              newOctets.all (some · == newOctets.head?)) then
          some "when translating with complemented character classes,\nstring2 must map all characters in the domain to one"
        else none

/-! ### Replacing -/

/-- The octet that stands in the place of another; the last one of a set stands for all beyond. The
last entry of a set for an octet counts. -/
def translate (old new : Octets) (c : Char) : Char :=
  match old.reverse.idxOf? c with
  | some i => (new[old.length - 1 - i]?).getD (new.getLastD c)
  | none => c

/-- An octet outside the set stands for itself. -/
theorem translate_of_not_mem {old new : Octets} {c : Char} (h : c ∉ old) :
    translate old new c = c := by
  have hr : old.reverse.idxOf? c = none := by
    rw [List.idxOf?_eq_none_iff]
    simpa using h
  simp [translate, hr]

/-- A text without octets of a set that repeat the octet before. -/
def squeeze (set : Octets) : Octets → Octets
  | a :: b :: cs =>
      if a = b && set.contains a then squeeze set (b :: cs) else a :: squeeze set (b :: cs)
  | cs => cs

end Characters

namespace Tool

open Characters

/-- Saying what is wrong with the operands for replacing octets, with a second line perhaps. -/
def failOperands {α : Type} (c : Call) (message : Octets) (hint : String) : Task α := do
  say c message
  if !hint.isEmpty then complain (octetsOf hint)
  pointToManual c
  throw 1

/-- The elements of a set; a faulty one ends the call. -/
def setOf (c : Call) (cs : Octets) : Task (List Element) := do
  (setRemarks cs.length cs).forM (say c)
  match readSet cs with
  | .ok es => return es
  | .error e => failWith c 1 e.message

/-- The options for replacing octets. -/
def trRules : OptionRules :=
  ⟨"AcCdst", [("complement", 'c'), ("delete", 'd'), ("squeeze-repeats", 's'),
    ("truncate-set1", 't')], false, 1⟩

/-- Replacing or leaving out octets. -/
def tr : Tool := fun c => do
  let a ← arguments trRules c
  let deletes := a.has 'd'
  let squeezes := a.has 's'
  let most := if deletes && !squeezes then 1 else 2
  let least := if deletes == squeezes then 2 else 1
  let last := a.operands.getLast?.getD []
  if a.operands.isEmpty then failOperands c (octetsOf "missing operand") ""
  else if a.operands.length < least then
    failOperands c (octetsOf "missing operand after " ++ quoteText last)
      (if squeezes then "Two strings must be given when both deleting and squeezing repeats."
        else "Two strings must be given when translating.")
  else match a.operands.drop most with
    | extra :: _ =>
        failOperands c (octetsOf "extra operand " ++ quoteText extra)
          (if a.operands.length = 2 then
            "Only one string may be given when deleting without squeezing repeats." else "")
    | [] => do
        let first ← setOf c (a.operands.headD [])
        let second? ← (a.operands.drop 1).head?.mapM (setOf c)
        let u : SetUse := ⟨second?.isSome && !deletes, a.hasAny "cC", a.has 't'⟩
        match u.fault? first second? with
        | some fault => failWith c 1 (octetsOf fault)
        | none => do
            let old := octetsOfSet 0 first
            let old := if u.complements then complement old else old
            let new := octetsOfSet old.length (second?.getD [])
            let cs ← takeInput
            let cs := if deletes then cs.filter fun x => !old.contains x
              else if u.replaces then
                let old := if u.truncates then old.take new.length else old
                cs.map (translate old new)
              else cs
            write (if squeezes then
              Characters.squeeze (if second?.isSome then new else old) cs else cs)
            return 0

end Tool

end Script

end LineShell
