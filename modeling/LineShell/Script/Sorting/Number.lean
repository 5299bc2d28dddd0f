import LineShell.Decimal.Basic
import LineShell.Script.Format

/-!
# The numbers by which texts are ordered

A text may count as the number with which it begins: a plain one, one with a letter for thousands,
millions and so on behind it, one in any notation of a fraction, or the month of a name. Each reader
also tells how much of the text it has used.

Main statement: `monthAt_of_name`, by which every month is known by its name.
-/

namespace LineShell

namespace Script

namespace Sorting

/-! ### Plain numbers -/

/-- Blanks between fields; the end of a line is one of them where lines end otherwise. -/
def isFieldBlank (c : Char) : Bool := c == ' ' || c == '\t' || c == '\n'

/-- A plain number in front of a text: its digits before and behind the point, and the rest. A point
with no digit behind it is part of the number. -/
structure PlainNumber where
  /-- Whether a minus sign stands in front. -/
  isNegative : Bool
  /-- The digits before the point. -/
  whole : Octets
  /-- The digits behind the point. -/
  fraction : Octets
  /-- What is behind the number. -/
  rest : Octets

namespace PlainNumber

/-- The plain number with which a text begins. -/
def read (cs : Octets) : PlainNumber :=
  let (isNegative, cs) := match cs with
    | '-' :: cs => (true, cs)
    | cs => (false, cs)
  let whole := cs.takeWhile isAsciiDigit
  match cs.drop whole.length with
  | '.' :: cs =>
      let fraction := cs.takeWhile isAsciiDigit
      ⟨isNegative, whole, fraction, cs.drop fraction.length⟩
  | rest => ⟨isNegative, whole, [], rest⟩

/-- All digits. -/
def digits (n : PlainNumber) : Octets := n.whole ++ n.fraction

/-- The value; zero if there are no digits. -/
def value (n : PlainNumber) : Decimal :=
  let m : Int := ofDigits n.digits
  ⟨if n.isNegative then -m else m, -(n.fraction.length : Int)⟩

/-- The letters for powers of a thousand, in order. -/
def unitLetters : List Char := "KMGTPEZY".toList

/-- The power of a thousand for which the character behind a number stands. -/
def powerOf (rest : Octets) : Nat :=
  match rest.head? with
  | none => 0
  | some c => (unitLetters.idxOf? (if c = 'k' then 'K' else c)).elim 0 (· + 1)

/-- The order of magnitude: that of the letter behind the number, with the sign of the number. Zero has
none. -/
def magnitude (n : PlainNumber) : Int :=
  if n.digits.all (· == '0') then 0
  else if n.isNegative then -(powerOf n.rest : Int) else powerOf n.rest

end PlainNumber

/-- A text without the blanks in front. -/
def trimmed (cs : Octets) : Octets := cs.dropWhile isFieldBlank

/-- How two decimals stand to one another. -/
def compareDecimals (a b : Decimal) : Ordering :=
  let e := Decimal.commonExponent a b
  compare (a.scaled e) (b.scaled e)

/-- How two texts stand to one another by the plain numbers in front. -/
def compareNumbers (a b : Octets) : Ordering :=
  compareDecimals (PlainNumber.read (trimmed a)).value (PlainNumber.read (trimmed b)).value

/-- How two texts stand to one another by numbers with letters for thousands behind them: the order of
magnitude comes first. -/
def compareSizes (a b : Octets) : Ordering :=
  let x := PlainNumber.read (trimmed a)
  let y := PlainNumber.read (trimmed b)
  (compare x.magnitude y.magnitude).then (compareDecimals x.value y.value)

/-! ### Numbers in any notation -/

/-- What a text stands for that is to be a number in some notation. -/
inductive AnyNumber where
  /-- No number. -/
  | absent
  /-- The value that is no number. -/
  | undefined
  /-- An infinity. -/
  | infinite (isNegative : Bool)
  /-- A fraction. -/
  | finite (isNegative : Bool) (q : Format.Fraction)

namespace AnyNumber

/-- How many bits of a fraction are kept. -/
def bits : Nat := 64

/-- A fraction with hexadecimal digits in front of a text, perhaps with a power of two, and the rest. -/
def hexadecimalAt? (cs : Octets) : Option (Format.Fraction × Octets) :=
  let whole := cs.takeWhile isHex
  let (decimals, rest) := match cs.drop whole.length with
    | '.' :: ds =>
        let decimals := ds.takeWhile isHex
        (decimals, ds.drop decimals.length)
    | rest => ([], rest)
  if whole.isEmpty && decimals.isEmpty then none
  else
    let (e, rest) := exponentAt rest
    let e := e - 4 * (decimals.length : Int)
    some (⟨ofBase 16 (whole ++ decimals) * 2 ^ e.toNat, 2 ^ (-e).toNat⟩, rest)
where
  /-- A power of two, and the rest. -/
  exponentAt (cs : Octets) : Int × Octets :=
    match cs with
    | p :: ds =>
        if p = 'p' ∨ p = 'P' then
          let (isNegative, ds) := match ds with
            | '-' :: ds => (true, ds)
            | '+' :: ds => (false, ds)
            | ds => (false, ds)
          let digits := ds.takeWhile isAsciiDigit
          let n : Int := min (ofDigits digits) 16000
          if digits.isEmpty then (0, cs)
          else (if isNegative then -n else n, ds.drop digits.length)
        else (0, cs)
    | [] => (0, [])

/-- Whether a text begins with a word, in capitals or small letters. -/
def beginsWith (word : String) (cs : Octets) : Bool :=
  (cs.take word.length).map Char.toLower = word.toList

/-- The number with which a text begins, and the rest; the whole text if there is none. -/
def read (cs : Octets) : AnyNumber × Octets :=
  let (isNegative, ds) := match cs.dropWhile isSpace with
    | '-' :: ds => (true, ds)
    | '+' :: ds => (false, ds)
    | ds => (false, ds)
  if beginsWith "infinity" ds then (.infinite isNegative, ds.drop 8)
  else if beginsWith "inf" ds then (.infinite isNegative, ds.drop 3)
  else if beginsWith "nan" ds then (.undefined, ds.drop 3)
  else
    let hexadecimal := if beginsWith "0x" ds then hexadecimalAt? (ds.drop 2) else none
    match hexadecimal, Format.fractionAt? ds with
    | some (q, rest), _ => (.finite isNegative (q.rounded bits), rest)
    | none, some (q, rest) => (.finite isNegative (q.rounded bits), rest)
    | none, none => (.absent, cs)

/-- What is no number comes before the value that is none, and that before the numbers. -/
def rank : AnyNumber → Nat
  | absent => 0
  | undefined => 1
  | _ => 2

/-- The numerator with its sign, and the denominator, of a finite number. -/
def quotient? : AnyNumber → Option (Int × Nat)
  | finite isNegative q => some (if isNegative then -(q.num : Int) else q.num, q.den)
  | _ => none

/-- How far beyond the finite numbers a number lies. -/
def excess : AnyNumber → Int
  | infinite true => -1
  | infinite false => 1
  | _ => 0

/-- How two numbers stand to one another. -/
def compare (x y : AnyNumber) : Ordering :=
  let quotients := match x.quotient?, y.quotient? with
    | some (n, d), some (m, e) => Ord.compare (n * e) (m * d)
    | _, _ => .eq
  (Ord.compare x.rank y.rank).then ((Ord.compare x.excess y.excess).then quotients)

end AnyNumber

/-! ### Months -/

/-- The months by the first letters of their names. -/
def monthNames : List String :=
  ["JAN", "FEB", "MAR", "APR", "MAY", "JUN", "JUL", "AUG", "SEP", "OCT", "NOV", "DEC"]

/-- The number of the month with whose name a text begins; zero if there is none. -/
def monthAt (cs : Octets) : Nat :=
  match monthNames.idxOf? (String.ofList ((cs.take 3).map Char.toUpper)) with
  | some i => i + 1
  | none => 0

/-- Every month is known by its name. -/
theorem monthAt_of_name : monthNames.map (fun s => monthAt s.toList) = List.range' 1 12 := by
  decide +kernel

end Sorting

end Script

end LineShell
