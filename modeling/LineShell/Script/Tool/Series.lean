import LineShell.Script.Format
import LineShell.Script.Tool.Quantity

/-!
# Numbers in a row

A tool that writes the numbers from one to another by a step, each on a line of its own or with
something else between them.

Main statement: `length_countFrom`, by which there are never more numbers than asked for.
-/

namespace LineShell

namespace Script

namespace Tool

/-! ### Operands -/

/-- A number that is an operand. -/
structure Operand where
  /-- Its value; one without an end stands for all numbers that are beyond bounds. -/
  value : Decimal
  /-- How wide it would be in plain notation. -/
  width : Nat
  /-- The places behind the point, if they can be told. -/
  places : Option Nat
deriving Repr

/-- A number that is greater than all that are counted to. -/
def Operand.endless (negative : Bool) : Operand := ⟨⟨if negative then -1 else 1, 5000⟩, 0, none⟩

/-- The operand one. -/
def Operand.one : Operand := ⟨Decimal.ofInt 1, 1, some 0⟩

/-- The width of a plain number whose text has an exponent perhaps, and its places. -/
def widthAndPlaces (cs : Octets) : Nat × Nat :=
  let isMark (c : Char) : Bool := c == 'e' || c == 'E'
  let mantissa := cs.takeWhile fun c => !isMark c
  let hasPoint := mantissa.contains '.'
  let whole := mantissa.takeWhile (· != '.')
  let fraction := (mantissa.drop (whole.length + 1)).length
  let width :=
    if !hasPoint then mantissa.length
    else if fraction = 0 then mantissa.length - 1
    else if (whole.getLast?.filter isAsciiDigit).isNone then mantissa.length + 1
    else mantissa.length
  if mantissa.length = cs.length then (width, fraction)
  else match cs.drop (mantissa.length + 1) with
    | '-' :: ds =>
        let e := ofDigits ds
        (width + e + (if !hasPoint || fraction = 0 then 1 else 0), fraction + e)
    | ds =>
        let e := ofDigits (ds.filter isAsciiDigit)
        let places := fraction - e
        let width := if hasPoint && places = 0 && fraction ≠ 0 then width - 1 else width
        (width + (e - fraction), places)

/-- The digit of a hexadecimal number. -/
def hexDigit (c : Char) : Nat :=
  if isAsciiDigit c then c.toNat - '0'.toNat else c.toLower.toNat - 'a'.toNat + 10

/-- The operand that a text writes: a decimal, a whole hexadecimal number, or a word for a number
without bounds. -/
def operand? (cs : Octets) : Option Operand :=
  let text := cs.dropWhile isSpace
  let (negative, rest) := match text with
    | '-' :: rest => (true, rest)
    | '+' :: rest => (false, rest)
    | rest => (false, rest)
  let word := String.ofList (rest.map Char.toLower)
  if word = "inf" ∨ word = "infinity" then some (.endless negative)
  else match rest with
    | '0' :: x :: ds =>
        if x = 'x' ∨ x = 'X' then
          let isHexDigit (c : Char) : Bool :=
            isAsciiDigit c || "abcdef".toList.contains c.toLower
          if ds.isEmpty || !ds.all isHexDigit then none
          else
            let n : Int := ds.foldl (fun n d => n * 16 + hexDigit d) 0
            some ⟨Decimal.ofInt (if negative then -n else n), 0, some 0⟩
        else plain text
    | _ => plain text
where
  /-- An operand in decimal notation. -/
  plain (text : Octets) : Option Operand := (decimal? text).map fun d =>
    let (width, places) := widthAndPlaces (text.dropWhile (· == '+'))
    ⟨d, width, some places⟩

/-- Whether a text stands for no number. -/
def isNotANumber (cs : Octets) : Bool :=
  let cs := cs.dropWhile isSpace
  let cs := if "+-".toList.any (cs.head? == some ·) then cs.drop 1 else cs
  String.ofList (cs.map Char.toLower) == "nan"

/-! ### Counting -/

/-- A decimal with so many places, which are enough for it. -/
def withPlaces (places : Nat) (d : Decimal) : Octets :=
  let n := d.scaled (-(places : Int))
  let ds := Numeral.digits n.natAbs
  let ds := List.replicate (places + 1 - ds.length) '0' ++ ds
  let sign := if n < 0 then ['-'] else []
  let whole := sign ++ ds.take (ds.length - places)
  if places = 0 then whole else whole ++ '.' :: ds.drop (ds.length - places)

/-- The decimals from one to another by a step, at most so many. -/
def countFrom (most : Nat) (first step last : Decimal) : List Decimal :=
  let e := min first.exponent (min step.exponent last.exponent)
  let distance := last.scaled e - first.scaled e
  let s := step.scaled e
  let steps := if s = 0 then 0 else (distance.fdiv s + 1).toNat
  let e := min first.exponent step.exponent
  (List.range (min most steps)).map fun (i : Nat) => ⟨first.scaled e + step.scaled e * i, e⟩

/-- There are never more numbers than asked for. -/
theorem length_countFrom (most : Nat) (first step last : Decimal) :
    (countFrom most first step last).length ≤ most := by
  simp only [countFrom, List.length_map, List.length_range]
  omega

/-- A number with zeros in front, behind its sign. -/
def widened (width : Nat) (cs : Octets) : Octets :=
  match cs with
  | '-' :: ds => '-' :: (List.replicate (width - ds.length - 1) '0' ++ ds)
  | ds => List.replicate (width - ds.length) '0' ++ ds

/-- The width to which numbers are made equal. -/
def commonWidth (places : Nat) (first last : Operand) : Nat :=
  let firstPlaces := first.places.getD 0
  let lastPlaces := last.places.getD 0
  let w1 := first.width + (places - firstPlaces) +
    (if firstPlaces = 0 && places ≠ 0 then 1 else 0)
  let w2 := last.width + places - lastPlaces
  let w2 := if lastPlaces ≠ 0 && places = 0 then w2 - 1 else w2
  max w1 (if lastPlaces = 0 && places ≠ 0 then w2 + 1 else w2)

/-! ### Formats -/

/-- What is wrong with a format for numbers. -/
inductive NumberFormatFault where
  /-- It has no directive. -/
  | noDirective
  /-- It ends within its directive. -/
  | ended
  /-- It has a directive of another kind. -/
  | unknown (c : Char)
  /-- It has several directives. -/
  | several
deriving DecidableEq, Repr

/-- The wording of a fault of a format. -/
def NumberFormatFault.message (fmt : Octets) (f : NumberFormatFault) : Octets :=
  octetsOf "format " ++ quoteText fmt ++ match f with
    | noDirective => octetsOf " has no % directive"
    | ended => octetsOf " ends in %"
    | unknown c => octetsOf " has unknown %" ++ [c] ++ octetsOf " directive"
    | several => octetsOf " has too many % directives"

/-- A text behind the first percent sign that stands for a directive. -/
def behindPercent? : Octets → Option Octets
  | '%' :: '%' :: cs => behindPercent? cs
  | '%' :: cs => some cs
  | _ :: cs => behindPercent? cs
  | [] => none

/-- What is wrong with a format that is to write one number. -/
def numberFormatFault? (fmt : Octets) : Option NumberFormatFault :=
  match behindPercent? fmt with
  | none => some .noDirective
  | some cs =>
      let cs := (cs.dropWhile ("-+#0 '".toList.contains ·)).dropWhile isAsciiDigit
      let cs := match cs with
        | '.' :: cs => cs.dropWhile isAsciiDigit
        | cs => cs
      let cs := match cs with
        | 'L' :: cs => cs
        | cs => cs
      match cs with
      | [] => some .ended
      | c :: cs =>
          if !"efgaEFGA".toList.contains c then some (.unknown c)
          else if (behindPercent? cs).isSome then some .several
          else none

/-! ### The tool -/

/-- The options for numbers in a row. -/
def seqRules : OptionRules :=
  ⟨"f:s:w", [("equal-width", 'w'), ("format", 'f'), ("separator", 's')], false, 1⟩

/-- Whether an argument is a number with a minus sign rather than an option. -/
def isNegativeNumber : Octets → Bool
  | '-' :: c :: _ => isAsciiDigit c || c == '.'
  | _ => false

/-- Options and numbers told apart. -/
def readNumbers (rules : OptionRules) : List Octets → Except OptionFault Arguments
  | [] => .ok ⟨[], []⟩
  | a :: rest =>
      if isNegativeNumber a then .ok ⟨[], a :: rest⟩
      else match classify rules rest a with
        | .mark => .ok ⟨[], rest⟩
        | .options r => do
            let (os, took) ← r
            return (← readNumbers rules (rest.drop took.toNat)).withOptions os
        | .operand => .ok ⟨[], a :: rest⟩
termination_by l => l.length
decreasing_by
  simp only [List.length_drop, List.length_cons]
  omega

/-- The number that an operand writes; else the call ends. -/
def operandOf (c : Call) (cs : Octets) : Task Operand :=
  match operand? cs with
  | some o => return o
  | none =>
      if isNotANumber cs then
        failUsage c 1 (octetsOf "invalid 'not-a-number' argument: " ++ quoteText cs)
      else failUsage c 1 (octetsOf "invalid floating point argument: " ++ quoteText cs)

/-- The first number, the step and the last number that operands give. -/
def readSeries (c : Call) (numbers : List Octets) : Task (Operand × Operand × Operand) := do
  match numbers with
  | [] => failUsage c 1 (octetsOf "missing operand")
  | [last] => return (.one, .one, ← operandOf c last)
  | [first, last] => return (← operandOf c first, .one, ← operandOf c last)
  | [first, step, last] => do
      let first ← operandOf c first
      let stride ← operandOf c step
      if stride.value.isZero then
        failUsage c 1 (octetsOf "invalid Zero increment value: " ++ quoteText step)
      else return (first, stride, ← operandOf c last)
  | _ :: _ :: _ :: extra :: _ => failUsage c 1 (octetsOf "extra operand " ++ quoteText extra)

/-- Writing numbers in a row. -/
def seq : Tool := fun c => do
  let a ← match readNumbers seqRules c.args with
    | .ok a => if a.has manualLetter || a.has versionLetter then throw 0 else pure a
    | .error f => failUsage c 1 f.message
  match a.operands with
  | [] => failUsage c 1 (octetsOf "missing operand")
  | _ :: _ :: _ :: extra :: _ => failUsage c 1 (octetsOf "extra operand " ++ quoteText extra)
  | numbers => do
      (a.value? 'f').forM fun fmt => match numberFormatFault? fmt with
        | some f => failWith c 1 (f.message fmt)
        | none => return ()
      if (a.value? 'f').isSome && a.has 'w' then
        failUsage c 1
          (octetsOf "format string may not be specified when printing equal width strings")
      else do
        let (first, step, last) ← readSeries c numbers
        let places := max <$> first.places <*> step.places
        let shown := places.getD
          (max (first.value.exponent.natAbs) (step.value.exponent.natAbs))
        let most := if last.places.isNone then manyLines else 50 * manyLines
        let texts := (countFrom most first.value step.value last.value).map (withPlaces shown)
        let fmt? := if places.isNone && (a.value? 'f').isNone then some (octetsOf "%g")
          else a.value? 'f'
        let texts := match fmt? with
          | some fmt => texts.map fun t => (Format.apply .tool fmt [t]).octets
          | none =>
              if a.has 'w' && last.places.isSome then
                texts.map (widened (commonWidth shown first last))
              else texts
        if !texts.isEmpty then write (((a.value? 's').getD ['\n']).intercalate texts ++ ['\n'])
        return 0

end Tool

end Script

end LineShell
