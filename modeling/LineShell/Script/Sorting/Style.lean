import LineShell.Script.Sorting.Number
import LineShell.Script.Sorting.Version

/-!
# How pieces of lines are compared

A style says which octets of a piece count, whether capitals count as small letters, and whether the
piece is taken as a text, a number, a month or a version. It is given by letters, as options are.

Main statement: `Style.compare_self`, by which a piece is never before or behind itself in the style
of texts.
-/

namespace LineShell

namespace Script

namespace Sorting

/-- How pieces of lines are compared. -/
structure Style where
  /-- The letters, but for the one about blanks. -/
  letters : List Char
  /-- Whether blanks in front do not belong to a piece. -/
  trimsStart : Bool
  /-- Whether blanks in front of the field in which a piece ends are not counted. -/
  trimsFinish : Bool
deriving DecidableEq, Repr

namespace Style

/-- The style of plain texts. -/
def plain : Style := ⟨[], false, false⟩

/-- Whether a style has a letter. -/
def has (s : Style) (c : Char) : Bool := s.letters.contains c

/-- Whether a style is given at all. -/
def isGiven (s : Style) : Bool := !s.letters.isEmpty || s.trimsStart || s.trimsFinish

/-- Whether a style does more than turning the order round. -/
def isSpecial (s : Style) : Bool := { s with letters := s.letters.filter (· != 'r') }.isGiven

/-- A style without what does not bear on the kind of the pieces. -/
def kind (s : Style) : Style := ⟨s.letters.filter (· != 'r'), false, false⟩

/-- Whether pieces are taken as numbers. -/
def isNumeric (s : Style) : Bool := s.has 'n' || s.has 'g' || s.has 'h'

/-- A style with a letter more; blanks may be meant at both ends of a piece, or at one. -/
def withLetter (s : Style) (atStart atFinish : Bool) (c : Char) : Style :=
  if c = 'b' then
    { s with trimsStart := s.trimsStart || atStart, trimsFinish := s.trimsFinish || atFinish }
  else { s with letters := s.letters ++ [c] }

/-- The letters that styles are given by. -/
def allLetters : List Char := "bdfghiMnRrV".toList

/-- The letters of a style in order. The one that leaves out what cannot be printed is implied by the
one that leaves out more. -/
def text (s : Style) : Octets :=
  allLetters.filter fun c =>
    if c = 'b' then s.trimsStart || s.trimsFinish
    else if c = 'i' then s.has 'i' && !s.has 'd'
    else s.has c

/-- Whether the letters of a style go together: there is one kind of piece at the most. -/
def isConsistent (s : Style) : Bool :=
  let others := s.has 'V' || s.has 'R' || s.has 'd' || s.has 'i'
  ([s.has 'n', s.has 'g', s.has 'h', s.has 'M', others].filter id).length ≤ 1

/-! ### Comparing -/

/-- Whether an octet counts. -/
def counts (s : Style) (c : Char) : Bool :=
  if s.has 'd' then c.isAlphanum || isFieldBlank c
  else if s.has 'i' then isPrintable c
  else true

/-- The octets of a piece as they are compared. -/
def essence (s : Style) (cs : Octets) : Octets :=
  let cs := cs.filter s.counts
  if s.has 'f' then cs.map Char.toUpper else cs

/-- How two pieces stand to one another, before the order is perhaps turned round. -/
def compareEssences (s : Style) (a b : Octets) : Ordering :=
  if s.has 'n' then compareNumbers a b
  else if s.has 'g' then (AnyNumber.read a).1.compare (AnyNumber.read b).1
  else if s.has 'h' then compareSizes a b
  else if s.has 'M' then compare (monthAt (trimmed a)) (monthAt (trimmed b))
  else if s.has 'V' && !s.has 'R' then compareVersions a b
  else compareOctets a b

/-- How two pieces stand to one another. -/
def compare (s : Style) (a b : Octets) : Ordering :=
  let o := s.compareEssences (s.essence a) (s.essence b)
  if s.has 'r' then o.swap else o

/-- A piece is never before or behind itself in the style of texts. -/
theorem compare_self {s : Style} (h : s.isNumeric = false) (cs : Octets) :
    s.compare cs cs = .eq := by
  have hn : s.has 'n' = false := by simp_all [isNumeric]
  have hg : s.has 'g' = false := by simp_all [isNumeric]
  have hh : s.has 'h' = false := by simp_all [isNumeric]
  have he : s.compareEssences (s.essence cs) (s.essence cs) = .eq := by
    simp [compareEssences, hn, hg, hh, compareVersions_self]
  simp [compare, he]

end Style

end Sorting

end Script

end LineShell
