import LineShell.Text.Digit
import LineShell.Text.Utf8

/-!
# Octets

All characters of a script stand for octets, so that a text, the output of a command and the bytes
of a file are of one kind. A text is written in UTF-8.
-/

namespace LineShell

namespace Script

/-- A text whose characters stand for octets. -/
abbrev Octets := List Char

/-- Bytes as octets. -/
def octetsOfBytes (bs : List UInt8) : Octets := bs.map fun b => Char.ofNat b.toNat

/-- Octets as bytes. -/
def bytesOfOctets (cs : Octets) : List UInt8 := cs.map fun c => UInt8.ofNat c.toNat

/-- A text as octets. -/
def octetsOf (s : String) : Octets := octetsOfBytes (Utf8.encode s.toList)

/-- Octets as a text, with replacement characters for what is malformed. -/
def textOf (cs : Octets) : List Char := Utf8.decode (bytesOfOctets cs)

/-- Blanks between words. -/
def isBlank (c : Char) : Bool := c == ' ' || c == '\t'

/-- White space. -/
def isSpace (c : Char) : Bool := c == ' ' || ('\t' ≤ c && c ≤ '\r')

/-- The characters with which a name can begin. -/
def isNameStart (c : Char) : Bool := c.isAlpha || c == '_'

/-- The characters of a name. -/
def isNameChar (c : Char) : Bool := c.isAlphanum || c == '_'

/-- Whether a text is a name. -/
def isName : Octets → Bool
  | [] => false
  | c :: cs => isNameStart c && cs.all isNameChar

/-- Words with one space between them. -/
def joined (ws : List Octets) : Octets := [' '].intercalate ws

/-- Whether octets stand before others, or are the same. -/
def octetsLe (a b : Octets) : Bool := String.ofList a ≤ String.ofList b

/-- How octets stand to others: at the first difference the lower one comes first, and what ends comes
before what goes on. -/
def compareOctets : Octets → Octets → Ordering
  | [], [] => .eq
  | [], _ :: _ => .lt
  | _ :: _, [] => .gt
  | a :: as, b :: bs => (compare a.toNat b.toNat).then (compareOctets as bs)

/-- Octets stand neither before nor behind themselves. -/
@[simp] theorem compareOctets_self (cs : Octets) : compareOctets cs cs = .eq := by
  induction cs with
  | nil => rfl
  | cons c cs ih => simp [compareOctets, ih]

/-- A text without the ends of line behind it. -/
def dropFinalNewlines (cs : Octets) : Octets := (cs.reverse.dropWhile (· == '\n')).reverse

/-- The lines of a text; a final end of line begins no further one. -/
def linesOf (cs : Octets) : List Octets :=
  match cs.splitOn '\n' with
  | ls => if ls.getLast? = some [] then ls.dropLast else ls

/-- Lines as a text. -/
def unlines (ls : List Octets) : Octets := ls.flatMap (· ++ ['\n'])

end Script

end LineShell
