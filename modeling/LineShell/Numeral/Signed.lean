import LineShell.Numeral
import LineShell.Text.Blank

/-!
# Whole numbers with a sign

Reading a whole number from a text: blanks around it do not count, a sign may stand directly before
the digits, the digits may be of any script, and single underscores may stand between digits. A
text with more digits than the bound on numerals is not read.

Writing a whole number is the plain inverse: the digits, behind a minus sign if there is one.
-/

namespace LineShell

namespace Numeral

/-- The blanks that may surround a number: all but the information separators. -/
def isPadding (c : Char) : Bool := isBlank c && !(28 ≤ c.toNat && c.toNat ≤ 31)

/-- A text without the padding at either end. -/
def dropPadding (cs : List Char) : List Char :=
  ((cs.dropWhile isPadding).reverse.dropWhile isPadding).reverse

/-- The number that groups of digits with underscores between them write. -/
def readGroups? (groups : List (List Char)) : Option Nat :=
  if groups.all fun g => !g.isEmpty && g.all isDecimalDigit then
    (read groups.flatten).toOption
  else none

/-- The number that digits and underscores write. -/
def readGrouped? (cs : List Char) : Option Nat := readGroups? (Chars.pieces (· == '_') cs)

/-- The number that a text writes. -/
def readSigned? (s : String) : Option Int :=
  match dropPadding s.toList with
  | '-' :: cs => (readGrouped? cs).map fun n => -(n : Int)
  | '+' :: cs => (readGrouped? cs).map Int.ofNat
  | cs => (readGrouped? cs).map Int.ofNat

/-- A whole number in decimal notation. -/
def signedDigits (n : Int) : List Char := (if n < 0 then ['-'] else []) ++ digits n.natAbs

/-- A text without digits writes no number. -/
theorem readGrouped?_nil : readGrouped? [] = none := rfl

end Numeral

end LineShell
