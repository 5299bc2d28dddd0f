import LineShell.Binary64.Basic

/-!
# Shortest text of a binary number

A finite number is written with the fewest significant digits that read back as it, and of the
decimals with so many digits the nearest one. On the grid of decimals with a given number of
digits, a decimal that reads back as the number exists only if one of its two neighbours on the
grid does, so only these are tried; seventeen digits always suffice.

The digits stand in positional notation when the leading one counts at least `10 ^ -4` and less
than `10 ^ 16`, with at least one place behind the point, and else before a power of ten with at
least two digits.
-/

namespace LineShell

namespace Binary64

/-- The digits that always suffice. -/
def maxDigits : Nat := 17

/-- The neighbours of a positive decimal on the grid of decimals with so many digits, the nearer
one first. -/
def gridNeighbours (d : Decimal) (digits : Nat) : List Decimal :=
  let unit := max (d.leadingExponent - digits + 1) d.exponent
  let step : Int := 10 ^ (unit - d.exponent).toNat
  let below := d.coefficient / step
  let above := below + 1
  let fromBelow := d.coefficient - below * step
  let toAbove := above * step - d.coefficient
  if fromBelow = 0 then [⟨below, unit⟩]
  else if fromBelow < toAbove ∨ (fromBelow = toAbove ∧ below % 2 = 0) then
    [⟨below, unit⟩, ⟨above, unit⟩]
  else [⟨above, unit⟩, ⟨below, unit⟩]

/-- The first decimal of `digits` digits or more that reads back as the number with this
magnitude; the exact one when `left` more grids were tried in vain. -/
def shortestFrom (x : Binary64) (d : Decimal) : Nat → Nat → Decimal
  | 0, _ => d
  | left + 1, digits =>
      match (gridNeighbours d digits).find? fun c => ofDecimal false c = x with
      | some c => c
      | none => shortestFrom x d left (digits + 1)

/-- The shortest decimal that reads back as `significand * 2 ^ exponent`. -/
def shortest (significand : Nat) (exponent : Int) : Decimal :=
  shortestFrom (.finite false significand exponent) (magnitude significand exponent) maxDigits 1

/-- Digits without the zeros at their end; one digit is kept. -/
def dropFinalZeros (ds : List Char) : List Char :=
  match (ds.reverse.dropWhile (· == '0')).reverse with
  | [] => ['0']
  | ds => ds

/-- An exponent, with its sign and two digits at least. -/
def exponentChars (e : Int) : List Char :=
  let ds := Numeral.digits e.natAbs
  (if e < 0 then '-' else '+') :: (List.replicate (2 - ds.length) '0' ++ ds)

/-- Digits written so that the leading one counts `10 ^ leading`. -/
def place (ds : List Char) (leading : Int) : List Char :=
  if -4 ≤ leading ∧ leading < 16 then
    if leading < 0 then "0.".toList ++ List.replicate (-leading - 1).toNat '0' ++ ds
    else
      let whole := leading.toNat + 1
      let fraction := ds.drop whole
      ds.take whole ++ List.replicate (whole - ds.length) '0' ++
        '.' :: (if fraction.isEmpty then ['0'] else fraction)
  else
    let fraction := ds.drop 1
    ds.take 1 ++ (if fraction.isEmpty then [] else '.' :: fraction) ++ 'e' :: exponentChars leading

/-- The text of a magnitude. -/
def magnitudeChars (significand : Nat) (exponent : Int) : List Char :=
  if significand = 0 then "0.0".toList
  else
    let d := shortest significand exponent
    place (dropFinalZeros (Numeral.digits d.coefficient.natAbs)) d.leadingExponent

/-- The text of a number. -/
def text : Binary64 → String
  | finite negative m e => (if negative then "-" else "") ++ String.ofList (magnitudeChars m e)
  | infinite negative => if negative then "-inf" else "inf"
  | nan => "nan"

end Binary64

end LineShell
