import LineShell.Decimal.Basic
import LineShell.Script.Tool.Basic

/-!
# Quantities

Numbers that are the values of options: how many lines, octets or columns are meant. A letter behind a
number may multiply it.

Main statement: `readQuantity_le`, by which no quantity is greater than a word can hold.
-/

namespace LineShell

namespace Script

namespace Tool

/-- What a text gives that is to be a quantity. -/
inductive Quantity where
  /-- A number. -/
  | exact (n : Nat)
  /-- A number that no word holds. -/
  | tooLarge
  /-- No number. -/
  | invalid
deriving DecidableEq, Repr

/-- The greatest number of a word. -/
def maxWord : Nat := 2 ^ 64 - 1

/-- The greatest number of half a word with a sign. -/
def maxHalfWord : Nat := 2 ^ 31 - 1

/-- The letters for powers of a thousand, or of 1024. -/
def powerLetters : List (Char × Nat) :=
  [('k', 1), ('K', 1), ('m', 2), ('M', 2), ('g', 3), ('G', 3), ('t', 4), ('T', 4), ('P', 5),
    ('E', 6), ('Z', 7), ('Y', 8), ('R', 9), ('Q', 10)]

/-- What is multiplied by, given the letters that may stand behind a number; a zero among them tells
that letters for the base may follow. -/
def unitFactor? (units : String) : Octets → Option Nat
  | [] => some 1
  | u :: rest =>
      if !units.toList.contains u then none
      else match u, rest with
        | 'b', [] => some 512
        | 'B', [] => some 1024
        | 'c', [] => some 1
        | 'w', [] => some 2
        | u, rest => match powerLetters.lookup u, rest, units.toList.contains '0' with
          | some p, [], _ => some (1024 ^ p)
          | some p, ['i', 'B'], true => some (1024 ^ p)
          | some p, ['B'], true => some (1000 ^ p)
          | some p, ['D'], true => some (1000 ^ p)
          | _, _, _ => none

/-- A number that is not beyond a word. -/
def Quantity.ofNat (n : Nat) : Quantity := if n ≤ maxWord then .exact n else .tooLarge

/-- The number that a text writes; a letter alone stands for one of its kind. -/
def scaledNumber? (units : String) (cs : Octets) : Option Nat :=
  let ds := match cs.dropWhile isSpace with
    | '+' :: ds => ds
    | ds => ds
  let digits := ds.takeWhile isAsciiDigit
  if !digits.isEmpty then
    (unitFactor? units (ds.drop digits.length)).map (ofDigits digits * ·)
  else if cs.isEmpty then none
  else unitFactor? units cs

/-- The quantity that a text writes. -/
def readQuantity (units : String) (cs : Octets) : Quantity :=
  match scaledNumber? units cs with
  | some n => .ofNat n
  | none => .invalid

theorem Quantity.ofNat_le {n m : Nat} (h : Quantity.ofNat n = .exact m) : m ≤ maxWord := by
  unfold Quantity.ofNat at h
  split at h
  · next hn =>
    cases h
    exact hn
  · cases h

/-- No quantity is greater than a word can hold. -/
theorem readQuantity_le {units : String} {cs : Octets} {n : Nat}
    (h : readQuantity units cs = .exact n) : n ≤ maxWord := by
  unfold readQuantity at h
  split at h
  · exact Quantity.ofNat_le h
  · cases h

/-- The units of counts of lines and octets. -/
def countUnits : String := "bkKmMGTPEZYRQ0"

/-- Refusing a quantity. -/
def failQuantity {α : Type} (c : Call) (what : String) (value : Octets) (reason : String) :
    Task α :=
  failWith c 1 (octetsOf (what ++ ": ") ++ quoteText value ++
    octetsOf (if reason.isEmpty then "" else ": " ++ reason))

/-- The quantity that the value of an option gives, which has to lie between two numbers; else the call
ends. -/
def quantity (c : Call) (units : String) (least most : Nat) (what : String) (value : Octets) :
    Task Nat :=
  let tooLarge := "Value too large for defined data type"
  match readQuantity units value with
  | .invalid => failQuantity c what value ""
  | .tooLarge => failQuantity c what value tooLarge
  | .exact n =>
      if n < least then failQuantity c what value "Numerical result out of range"
      else if most < n then
        failQuantity c what value
          (if maxHalfWord / 2 < n then tooLarge else "Numerical result out of range")
      else return n

/-- The whole number that the value of an option gives, which may have a minus sign. -/
def wholeQuantity (c : Call) (what : String) (value : Octets) : Task Int := do
  match value.dropWhile isSpace with
  | '-' :: ds =>
      if ds.isEmpty || !ds.all isAsciiDigit then failQuantity c what value ""
      else return -(ofDigits ds)
  | _ => return (← quantity c "" 0 maxWord what value : Nat)

/-! ### Fractions -/

/-- The decimal that a text writes, with an exponent perhaps. -/
def decimal? (cs : Octets) : Option Decimal :=
  let (negative, ds) := match cs with
    | '-' :: ds => (true, ds)
    | '+' :: ds => (false, ds)
    | ds => (false, ds)
  let whole := ds.takeWhile isAsciiDigit
  let rest := ds.drop whole.length
  let (fraction, rest) := match rest with
    | '.' :: fs => (fs.takeWhile isAsciiDigit, fs.dropWhile isAsciiDigit)
    | rest => ([], rest)
  let sign : Int := if negative then -1 else 1
  let n : Int := sign * ofDigits (whole ++ fraction)
  if whole.isEmpty && fraction.isEmpty then none
  else match rest with
    | [] => some ⟨n, -(fraction.length : Int)⟩
    | 'e' :: es => exponent n fraction.length es
    | 'E' :: es => exponent n fraction.length es
    | _ => none
where
  /-- A decimal with an exponent that is written behind it. -/
  exponent (n : Int) (places : Nat) (es : Octets) : Option Decimal :=
    let (negative, ds) := match es with
      | '-' :: ds => (true, ds)
      | '+' :: ds => (false, ds)
      | ds => (false, ds)
    if ds.isEmpty || !ds.all isAsciiDigit || ds.length > 3 then none
    else
      let e : Int := ofDigits ds
      some ⟨n, (if negative then -e else e) - places⟩

/-- How many lines are written where they have no end. -/
def manyLines : Nat := 20000

end Tool

end Script

end LineShell
