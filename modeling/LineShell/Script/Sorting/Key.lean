import LineShell.Script.Sorting.Style

/-!
# Keys

A key is a piece of a line by which lines are compared: from a place in one field to a place in
another, or to the end of the line. Fields end at a mark, or begin with the blanks before them.

Main statement: `skipFields_suffix`, by which fields are left out in front only.
-/

namespace LineShell

namespace Script

namespace Sorting

/-- A piece of a line, by which lines are compared. -/
structure Key where
  /-- How many fields stand before it, and how many octets of its first field. -/
  start : Nat × Nat
  /-- How many fields stand before the one in which it ends, and how many octets of that belong to it,
  zero for all of them; it goes to the end of the line if there is none. -/
  finish : Option (Nat × Nat)
  /-- How it is compared. -/
  style : Style
  /-- Whether it is written in the old notation. -/
  isOld : Bool
deriving DecidableEq, Repr

/-- The whole line as a key. -/
def Key.line (s : Style) : Key := ⟨(0, 0), none, s, false⟩

/-! ### Fields -/

/-- What is behind the first field of a text. A mark belongs to the field before it unless it is kept. -/
def skipField (mark : Option Char) (keepsMark : Bool) (cs : Octets) : Octets :=
  match mark with
  | none => (cs.dropWhile isFieldBlank).dropWhile fun c => !isFieldBlank c
  | some m =>
      let rest := cs.dropWhile (· != m)
      if keepsMark then rest else rest.drop 1

/-- What is behind the first fields of a text; the mark of the last one is perhaps kept. -/
def skipFields (mark : Option Char) (keepsMark : Bool) : Nat → Octets → Octets
  | 0, cs => cs
  | n + 1, cs => skipFields mark keepsMark n (skipField mark (keepsMark && n == 0) cs)

/-- Fields are left out in front only. -/
theorem skipFields_suffix (mark : Option Char) (keepsMark : Bool) :
    ∀ (n : Nat) (cs : Octets), skipFields mark keepsMark n cs <:+ cs
  | 0, cs => List.suffix_refl cs
  | n + 1, cs => by
      refine (skipFields_suffix mark keepsMark n _).trans ?_
      unfold skipField
      split
      · exact (List.dropWhile_suffix _).trans (List.dropWhile_suffix _)
      · split
        · exact List.dropWhile_suffix _
        · exact (List.drop_suffix _ _).trans (List.dropWhile_suffix _)

namespace Key

/-- How many octets of a line stand before what is left of it. -/
def offsetOf (l rest : Octets) : Nat := l.length - rest.length

/-- Where a key begins in a line. -/
def startIn (k : Key) (mark : Option Char) (l : Octets) : Nat :=
  let rest := skipFields mark false (min k.start.1 (l.length + 1)) l
  let rest := if k.style.trimsStart then trimmed rest else rest
  offsetOf l (rest.drop k.start.2)

/-- Where a key ends in a line. -/
def finishIn (k : Key) (mark : Option Char) (l : Octets) : Nat :=
  match k.finish with
  | none => l.length
  | some (fields, 0) => offsetOf l (skipFields mark true (min (fields + 1) (l.length + 1)) l)
  | some (fields, octets) =>
      let rest := skipFields mark false (min fields (l.length + 1)) l
      let rest := if k.style.trimsFinish then trimmed rest else rest
      offsetOf l (rest.drop octets)

/-- The piece of a line that a key is. -/
def pieceOf (k : Key) (mark : Option Char) (l : Octets) : Octets :=
  (l.take (k.finishIn mark l)).drop (k.startIn mark l)

/-- How two lines stand to one another by a key. -/
def compare (k : Key) (mark : Option Char) (a b : Octets) : Ordering :=
  k.style.compare (k.pieceOf mark a) (k.pieceOf mark b)

end Key

/-! ### Reading keys -/

/-- What is wrong with the text of a key. -/
inductive KeyFault where
  /-- There is no number where one is due. -/
  | noNumber (place : String) (cs : Octets)
  /-- The text is not that of a key, for a reason. -/
  | invalid (reason : String) (spec : Octets)
deriving DecidableEq, Repr

/-- The wording of a fault of a key. -/
def KeyFault.message : KeyFault → Octets
  | noNumber place cs =>
      octetsOf ("invalid number " ++ place ++ ": invalid count at start of ") ++ Tool.quoteText cs
  | invalid reason spec =>
      octetsOf (reason ++ ": invalid field specification ") ++ Tool.quoteText spec

/-- The number with which a text begins, perhaps behind blanks and a plus sign, and the rest. -/
def countAt? (cs : Octets) : Option (Nat × Octets) :=
  let ds := match cs.dropWhile isSpace with
    | '+' :: ds => ds
    | ds => ds
  let digits := ds.takeWhile isAsciiDigit
  if digits.isEmpty then none else some (ofDigits digits, ds.drop digits.length)

/-- The number with which a text begins, which stands at a place. -/
def count (place : String) (cs : Octets) : Except KeyFault (Nat × Octets) :=
  match countAt? cs with
  | some r => .ok r
  | none => .error (.noNumber place cs)

/-- A style with the letters in front of a text, and the rest. -/
def lettersAt (atStart atFinish : Bool) (s : Style) (cs : Octets) : Style × Octets :=
  let letters := cs.takeWhile Style.allLetters.contains
  (letters.foldl (·.withLetter atStart atFinish) s, cs.drop letters.length)

/-- A number less than one that is due, which must not be zero. -/
def fromOne (reason : String) (spec : Octets) (n : Nat) : Except KeyFault Nat :=
  if n = 0 then .error (.invalid reason spec) else .ok (n - 1)

/-- The key that a text writes: fields and octets are counted from one. -/
def readKey (spec : Octets) : Except KeyFault Key := do
  let (f, rest) ← count "at field start" spec
  let f ← fromOne "field number is zero" spec f
  let (o, rest) ← match rest with
    | '.' :: cs => do
        let (o, rest) ← count "after '.'" cs
        pure (← fromOne "character offset is zero" spec o, rest)
    | cs => pure (0, cs)
  let (style, rest) := lettersAt true false .plain rest
  let (finish, style, rest) ← match rest with
    | ',' :: cs => do
        let (g, rest) ← count "after ','" cs
        let g ← fromOne "field number is zero" spec g
        let (p, rest) ← match rest with
          | '.' :: cs => count "after '.'" cs
          | cs => pure (0, cs)
        let (style, rest) := lettersAt false true style rest
        pure (some (g, p), style, rest)
    | cs => pure (none, style, cs)
  if rest.isEmpty then return ⟨(f, o), finish, style, false⟩
  else throw (.invalid "stray character in field spec" spec)

/-- The beginning of a key in the old notation behind its plus sign, which counts fields and octets
from zero. -/
def readOldStart? (cs : Octets) : Option Key := do
  let (f, rest) ← countAt? cs
  let (o, rest) ← match rest with
    | '.' :: cs => countAt? cs
    | cs => some (0, cs)
  let (style, rest) := lettersAt true false .plain rest
  if rest.isEmpty then some ⟨(f, o), none, style, true⟩ else none

/-- A key with the end that an argument in the old notation gives it. -/
def readOldFinish (k : Key) (spec : Octets) : Except KeyFault Key := do
  let (g, rest) ← count "after '-'" (spec.drop 1)
  let (p, rest) ← match rest with
    | '.' :: cs => count "after '.'" cs
    | cs => pure (0, cs)
  let (style, rest) := lettersAt false true k.style rest
  let finish := if p = 0 ∧ 0 < g then (g - 1, 0) else (g, p)
  if rest.isEmpty then return { k with finish := some finish, style := style }
  else throw (.invalid "stray character in field spec" spec)

end Sorting

end Script

end LineShell
