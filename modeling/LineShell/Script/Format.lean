import LineShell.Binary64.Basic
import LineShell.Numeral.Signed
import LineShell.Script.Expression
import LineShell.Script.Quote

/-!
# Formats

Writing arguments by a format: plain text with escapes, and directives, each of which takes an
argument and fills a field with it. A format is used again until all arguments are taken. A few
writers share this; they differ in their escapes, in what they say about faults, and in how
precisely they keep fractions.
-/

namespace LineShell

namespace Script

/-- The commands that write by formats. -/
inductive FormatWriter where
  /-- That of the common shell. -/
  | plain
  /-- That of the extended shell. -/
  | extended
  /-- The tool. -/
  | tool
deriving DecidableEq, Repr

namespace FormatWriter

/-- The escapes in formats. -/
def formatRules : FormatWriter → EscapeRules
  | plain => .plainFormat
  | extended => .extendedFormat
  | tool => .toolFormat

/-- The escapes in arguments. -/
def argumentRules : FormatWriter → EscapeRules
  | plain => .plainText
  | extended => .extendedArgument
  | tool => .toolText

/-- The bits of a fraction that are kept. -/
def fractionBits : FormatWriter → Nat
  | plain => 53
  | extended => 64
  | tool => 64

/-- The letters that may stand before that of a directive without a meaning. -/
def ignoredLetters : FormatWriter → List Char
  | plain => []
  | _ => "hjlLtz".toList

end FormatWriter

/-- What has been made of a format. -/
structure Formatted where
  /-- The text. -/
  octets : Octets
  /-- What is to be said. -/
  faults : List Octets
  /-- The exit code. -/
  code : Nat
  /-- The arguments that are left. -/
  left : List Octets
  /-- Whether arguments were taken. -/
  took : Bool
  /-- Whether the output ends here. -/
  ended : Bool

namespace Formatted

/-- A text with another in front. -/
def after (cs : Octets) (f : Formatted) : Formatted := { f with octets := cs ++ f.octets }

/-- A text with something to be said in front. -/
def saying (messages : List Octets) (code : Nat) (f : Formatted) : Formatted :=
  { f with faults := messages ++ f.faults, code := max code f.code }

/-- A text that took an argument. -/
def taking (f : Formatted) : Formatted := { f with took := true }

end Formatted

namespace Format

/-! ### Fields -/

/-- A directive. -/
structure Directive where
  /-- The marks in front. -/
  flags : Octets
  /-- The least width. -/
  width : Nat
  /-- The precision, if there is one. -/
  precision : Option Nat
deriving DecidableEq, Repr

/-- Whether a directive has a mark. -/
def Directive.has (d : Directive) (c : Char) : Bool := d.flags.contains c

/-- A text filled up to the width: behind if that is asked for, else in front. -/
def fill (d : Directive) (cs : Octets) : Octets :=
  let padding := List.replicate (d.width - cs.length) ' '
  if d.has '-' then cs ++ padding else padding ++ cs

/-- The digits of a number behind its sign, filled up to the width with blanks or zeros. -/
def fillNumber (d : Directive) (zeros : Bool) (sign digits : Octets) : Octets :=
  if zeros && !d.has '-' then
    sign ++ List.replicate (d.width - sign.length - digits.length) '0' ++ digits
  else fill d (sign ++ digits)

/-- The sign of a number. -/
def signOf (d : Directive) (negative : Bool) : Octets :=
  if negative then ['-'] else if d.has '+' then ['+'] else if d.has ' ' then [' '] else []

/-- Digits with zeros in front up to the precision. -/
def withPrecision (d : Directive) (ds : Octets) : Octets :=
  let ds := if d.precision = some 0 ∧ ds = ['0'] then [] else ds
  List.replicate (d.precision.getD 1 - ds.length) '0' ++ ds

/-- A whole number in its field. -/
def wholeField (d : Directive) (n : Int) : Octets :=
  fillNumber d (d.has '0' && d.precision.isNone) (signOf d (n < 0))
    (withPrecision d (Numeral.digits n.natAbs))

/-- A number without a sign in a base, in its field. -/
def unsignedField (d : Directive) (base : Nat) (capitals : Bool) (n : Int) : Octets :=
  let m := bitsOf n
  let ds := Nat.toDigits base m
  let ds := if capitals then ds.map Char.toUpper else ds
  let ds := withPrecision d ds
  let mark := if d.has '#' && m != 0 then
      (if base = 16 then (if capitals then ['0', 'X'] else ['0', 'x']) else [])
    else []
  let ds := if d.has '#' && base = 8 && ds.head? != some '0' then '0' :: ds else ds
  fillNumber d (d.has '0' && d.precision.isNone) mark ds

/-! ### Numbers -/

/-- What is wrong with a number. -/
inductive NumberFault where
  /-- There is none. -/
  | missing
  /-- There is more than the number. -/
  | trailing
  /-- It is too great. -/
  | outOfRange
deriving DecidableEq, Repr

/-- What is said about a number, and the exit code. -/
def NumberFault.message (w : FormatWriter) (arg : Octets) (f : NumberFault) : Octets × Nat :=
  match w, f with
  | .plain, .missing => (arg ++ octetsOf ": expected numeric value", 1)
  | .plain, .trailing => (arg ++ octetsOf ": not completely converted", 1)
  | .plain, .outOfRange => (arg ++ octetsOf ": Numerical result out of range", 1)
  | .extended, .outOfRange =>
      (octetsOf "warning: " ++ arg ++ octetsOf ": Numerical result out of range", 0)
  | .extended, _ => (arg ++ octetsOf ": invalid number", 1)
  | .tool, .missing => ('\'' :: arg ++ octetsOf "': expected a numeric value", 1)
  | .tool, .trailing => ('\'' :: arg ++ octetsOf "': value not completely converted", 1)
  | .tool, .outOfRange => ('\'' :: arg ++ octetsOf "': Numerical result out of range", 1)

/-- The digits of a base with which a text begins, as a number, and the rest. -/
def digitsAt (base : Nat) (cs : Octets) : Nat × Octets :=
  let ds := cs.takeWhile fun c => digitOf base c < base && isNameChar c
  (ds.foldl (fun n c => base * n + digitOf base c) 0, cs.drop ds.length)

/-- The natural number with which a text begins, in a base of 16, 8 or 10, and the rest. -/
def naturalAt? (cs : Octets) : Option (Nat × Octets) :=
  match cs with
  | '0' :: x :: d :: rest =>
      if (x = 'x' ∨ x = 'X') ∧ isHex d then some (digitsAt 16 (d :: rest))
      else some (digitsAt 8 cs)
  | '0' :: _ => some (digitsAt 8 cs)
  | c :: _ => if isAsciiDigit c then some (digitsAt 10 cs) else none
  | [] => none

/-- The number that an argument writes, and what is wrong with it. The number of a character stands
for it behind a quotation mark. -/
def wholeNumber (isSigned : Bool) (arg : Octets) : Int × Option NumberFault :=
  match arg with
  | [] => (0, none)
  | '\'' :: cs => ((cs.headD '\x00').toNat, none)
  | '"' :: cs => ((cs.headD '\x00').toNat, none)
  | arg =>
      let cs := arg.dropWhile isSpace
      let (negative, ds) := match cs with
        | '-' :: ds => (true, ds)
        | '+' :: ds => (false, ds)
        | ds => (false, ds)
      match naturalAt? ds with
      | none => (0, some .missing)
      | some (n, rest) =>
          let value : Int := if negative then -n else n
          let least : Int := if isSigned then -(2 ^ 63) else -(2 ^ 64 - 1)
          let most : Int := if isSigned then 2 ^ 63 - 1 else 2 ^ 64 - 1
          let fault := if !rest.isEmpty then some .trailing
            else if value < least ∨ most < value then some .outOfRange else none
          let cut := if value < least then (if isSigned then least else most) else min value most
          (cut, fault)

/-! ### Fractions -/

/-- A number that is not negative, as a quotient. -/
structure Fraction where
  /-- The numerator. -/
  num : Nat
  /-- The denominator. -/
  den : Nat

/-- The fraction with so many bits that is nearest to another. -/
def Fraction.rounded (bits : Nat) (q : Fraction) : Fraction :=
  if q.num = 0 then q
  else
    let e := Binary64.floorLog q.num q.den - (bits - 1)
    let m := (Decimal.roundHalfEven (q.num * 2 ^ (-e).toNat) (q.den * 2 ^ e.toNat)).toNat
    ⟨m * 2 ^ e.toNat, 2 ^ (-e).toNat⟩

/-- The greatest exponent of ten that is kept. -/
def maxExponent : Int := 4900

/-- The fraction with which a text begins, and the rest. -/
def fractionAt? (cs : Octets) : Option (Fraction × Octets) :=
  let whole := cs.takeWhile isAsciiDigit
  let rest := cs.drop whole.length
  let (decimals, rest) := match rest with
    | '.' :: ds =>
        let decimals := ds.takeWhile isAsciiDigit
        (decimals, ds.drop decimals.length)
    | rest => ([], rest)
  if whole.isEmpty && decimals.isEmpty then none
  else
    let exponentAt (cs : Octets) : Option (Int × Octets) :=
      let (negative, ds) := match cs with
        | '-' :: ds => (true, ds)
        | '+' :: ds => (false, ds)
        | ds => (false, ds)
      let digits := ds.takeWhile isAsciiDigit
      if digits.isEmpty then none
      else
        let n : Int := min (ofDigits digits) 10000
        some (if negative then -n else n, ds.drop digits.length)
    let (e, rest) := match rest with
      | c :: ds => if c = 'e' ∨ c = 'E' then (exponentAt ds).getD (0, c :: ds) else (0, c :: ds)
      | [] => (0, [])
    let e := max (-maxExponent) (min maxExponent (e - decimals.length))
    let n := ofDigits (whole ++ decimals)
    some (⟨n * 10 ^ e.toNat, 10 ^ (-e).toNat⟩, rest)

/-- The digits of a fraction with so many decimals. -/
def fixed (q : Fraction) (precision : Nat) (point : Bool) : Octets :=
  let n := (Decimal.roundHalfEven (q.num * 10 ^ precision) q.den).toNat
  let ds := Numeral.digits n
  let ds := List.replicate (precision + 1 - ds.length) '0' ++ ds
  let whole := ds.take (ds.length - precision)
  if precision = 0 then (if point then whole ++ ['.'] else whole)
  else whole ++ '.' :: ds.drop (ds.length - precision)

/-- The greatest power of ten that is at most a fraction. -/
def decimalExponent (q : Fraction) : Int :=
  if q.num = 0 then 0
  else
    let guess : Int := (Numeral.length q.num : Int) - Numeral.length q.den
    if q.den * 10 ^ guess.toNat ≤ q.num * 10 ^ (-guess).toNat then guess else guess - 1

/-- The digits of a fraction with one before the point, and its exponent of ten. -/
def significant (q : Fraction) (precision : Nat) : Nat × Int :=
  let e := decimalExponent q
  let shift := (precision : Int) - e
  let n := (Decimal.roundHalfEven (q.num * 10 ^ shift.toNat) (q.den * 10 ^ (-shift).toNat)).toNat
  if 10 ^ (precision + 1) ≤ n then (n / 10, e + 1) else (n, e)

/-- An exponent as it is written. -/
def exponentText (capital : Bool) (e : Int) : Octets :=
  let ds := Numeral.digits e.natAbs
  (if capital then 'E' else 'e') :: (if e < 0 then '-' else '+') ::
    List.replicate (2 - ds.length) '0' ++ ds

/-- The digits of a fraction with an exponent. -/
def scientific (q : Fraction) (precision : Nat) (capital : Bool) : Octets :=
  let (n, e) := significant q precision
  let ds := Numeral.digits n
  let ds := ds ++ List.replicate (precision + 1 - ds.length) '0'
  (if precision = 0 then ds.take 1 else ds.take 1 ++ '.' :: ds.drop 1) ++ exponentText capital e

/-- A text without the zeros at the end of its decimals. -/
def dropZeros (cs : Octets) : Octets :=
  if cs.contains '.' then
    let short := (cs.reverse.dropWhile (· == '0')).reverse
    if short.getLast? = some '.' then short.dropLast else short
  else cs

/-- The digits of a fraction in the shorter of the two notations. -/
def general (q : Fraction) (precision : Nat) (capital whole : Bool) : Octets :=
  let p := max precision 1
  let (_, e) := significant q (p - 1)
  let trim := fun cs => if whole then cs else dropZeros cs
  if -4 ≤ e ∧ e < p then trim (fixed q ((p : Int) - 1 - e).toNat whole)
  else
    let text := scientific q (p - 1) capital
    let mantissa := text.takeWhile fun c => c != 'e' && c != 'E'
    trim mantissa ++ text.drop mantissa.length

/-- What an argument stands for that is to be a fraction. -/
inductive FractionArgument where
  /-- A fraction with a sign. -/
  | finite (negative : Bool) (q : Fraction)
  /-- Something that has a name. -/
  | named (negative : Bool) (name : Octets)

/-- The fraction that an argument writes, and what is wrong with it. -/
def fractionArgument (w : FormatWriter) (arg : Octets) :
    FractionArgument × Option NumberFault :=
  match arg with
  | [] => (.finite false ⟨0, 1⟩, none)
  | '\'' :: cs => (.finite false ⟨(cs.headD '\x00').toNat, 1⟩, none)
  | '"' :: cs => (.finite false ⟨(cs.headD '\x00').toNat, 1⟩, none)
  | arg =>
      let cs := arg.dropWhile isSpace
      let (negative, ds) := match cs with
        | '-' :: ds => (true, ds)
        | '+' :: ds => (false, ds)
        | ds => (false, ds)
      let lower := String.ofList (ds.map Char.toLower)
      if lower = "inf" ∨ lower = "infinity" then (.named negative "inf".toList, none)
      else if lower = "nan" then (.named negative "nan".toList, none)
      else match fractionAt? ds with
        | none => (.finite false ⟨0, 1⟩, some .missing)
        | some (q, rest) =>
            let q := q.rounded w.fractionBits
            let fault := if rest.isEmpty then none else some .trailing
            if w = .plain ∧ q.den * 2 ^ 1024 ≤ q.num then
              (.named negative "inf".toList, some .outOfRange)
            else (.finite negative q, fault)

/-- A fraction in its field, in the notation that a letter asks for. -/
def fractionField (d : Directive) (letter : Char) (a : FractionArgument) : Octets :=
  let precision := d.precision.getD 6
  let capital := letter.isUpper
  match a with
  | .named negative name =>
      fill d (signOf d negative ++ (if capital then name.map Char.toUpper else name))
  | .finite negative q =>
      let ds := match letter.toLower with
        | 'e' => scientific q precision capital
        | 'g' => general q precision capital (d.has '#')
        | _ => fixed q precision (d.has '#')
      fillNumber d (d.has '0') (signOf d negative) ds

/-! ### Quoted arguments -/

/-- The octets that have a meaning for a shell. -/
def needsBackslash (c : Char) : Bool := " \"'\\$`&|;()<>*?[]\x7b\x7d!^,".toList.contains c

/-- An argument such that a shell reads it back. -/
def backslashed (cs : Octets) : Octets :=
  if cs.isEmpty then ['\'', '\'']
  else if !cs.all isPrintable then dollarQuoted cs
  else
    let first := cs.head?.any fun c => c == '~' || c == '#'
    (if first then ['\\'] else []) ++
      cs.flatMap fun c => if needsBackslash c then ['\\', c] else [c]

/-! ### Formats -/

/-- A field with what is to be said about it. -/
structure Field where
  /-- The text. -/
  octets : Octets
  /-- What is to be said. -/
  faults : List Octets
  /-- The exit code. -/
  code : Nat
  /-- Whether the output ends with the field. -/
  ended : Bool

/-- A field with a fault, if there is one. -/
def fieldWith (w : FormatWriter) (arg cs : Octets) (f : Option NumberFault) : Field :=
  match f with
  | none => ⟨cs, [], 0, false⟩
  | some f =>
      let (message, code) := f.message w arg
      ⟨cs, [message], code, false⟩

/-- What a directive makes of an argument; nothing if there is no such directive. -/
def field? (w : FormatWriter) (d : Directive) (letter : Char) (arg : Octets) : Option Field :=
  let cut (cs : Octets) : Octets := match d.precision with
    | some n => cs.take n
    | none => cs
  match letter with
  | 's' => some ⟨fill d (cut arg), [], 0, false⟩
  | 'b' =>
      let (cs, ended) := unescape w.argumentRules arg
      some ⟨fill d (cut cs), [], 0, ended⟩
  | 'c' => some ⟨fill d [arg.headD '\x00'], [], 0, false⟩
  | 'q' => match w with
    | .plain => none
    | .extended => some ⟨fill d (cut (backslashed arg)), [], 0, false⟩
    | .tool => some ⟨fill d (cut (Tool.quoteIfNeeded arg)), [], 0, false⟩
  | c =>
      if c = 'd' ∨ c = 'i' then
        let (n, f) := wholeNumber true arg
        some (fieldWith w arg (wholeField d n) f)
      else if c = 'u' then
        let (n, f) := wholeNumber false arg
        some (fieldWith w arg (unsignedField d 10 false n) f)
      else if c = 'o' then
        let (n, f) := wholeNumber false arg
        some (fieldWith w arg (unsignedField d 8 false n) f)
      else if c = 'x' ∨ c = 'X' then
        let (n, f) := wholeNumber false arg
        some (fieldWith w arg (unsignedField d 16 (c == 'X') n) f)
      else if "eEfFgG".toList.contains c then
        let (a, f) := fractionArgument w arg
        some (fieldWith w arg (fractionField d c a) f)
      else none

/-- The number that an argument or digits give, with the rest of the text and the arguments. -/
def takeNumber (cs : Octets) (args : List Octets) : Option Int × Octets × List Octets :=
  match cs with
  | '*' :: cs => (some (wholeNumber true (args.headD [])).1, cs, args.drop 1)
  | cs =>
      let ds := cs.takeWhile isAsciiDigit
      (if ds.isEmpty then none else some (ofDigits ds), cs.drop ds.length, args)

/-- A directive without its letter, with the rest of the text and the arguments. -/
def takeDirective (w : FormatWriter) (cs : Octets) (args : List Octets) :
    Directive × Octets × List Octets :=
  let flags := cs.takeWhile "#-+ 0".toList.contains
  let (width, cs, args) := takeNumber (cs.drop flags.length) args
  let (precision, cs, args) := match cs with
    | '.' :: cs =>
        let (p, cs, args) := takeNumber cs args
        (some ((p.getD 0).toNat), cs, args)
    | cs => (none, cs, args)
  let ignored := cs.takeWhile w.ignoredLetters.contains
  let width := width.getD 0
  (⟨if width < 0 then '-' :: flags else flags, width.natAbs, precision⟩,
    cs.drop ignored.length, args)

/-- What is said about a directive that there is not, with the exit code. -/
def invalidDirective (w : FormatWriter) (raw : Octets) (letter : Option Char) : Octets × Nat :=
  match w, letter with
  | .plain, none => (octetsOf "missing format character", 2)
  | .plain, some _ => (raw ++ octetsOf ": invalid directive", 2)
  | .extended, none => (octetsOf "`" ++ raw ++ octetsOf "': missing format character", 1)
  | .extended, some c => (octetsOf "`" ++ [c] ++ octetsOf "': invalid format character", 1)
  | .tool, _ => (raw ++ octetsOf ": invalid conversion specification", 1)

/-- A format applied once. The number bounds the steps. -/
def applyFrom (w : FormatWriter) : Nat → Octets → List Octets → Formatted
  | 0, _, args => ⟨[], [], 0, args, false, false⟩
  | _, [], args => ⟨[], [], 0, args, false, false⟩
  | n + 1, '\\' :: cs, args => match escapeOf? w.formatRules cs with
    | some .finish => ⟨[], [], 0, args, false, true⟩
    | some (.octets out rest) => (applyFrom w n rest args).after out
    | none => (applyFrom w n cs args).after ['\\']
  | n + 1, '%' :: '%' :: cs, args => (applyFrom w n cs args).after ['%']
  | n + 1, '%' :: cs, args =>
      let (d, rest, left) := takeDirective w cs args
      let raw := '%' :: cs.take (cs.length - rest.length + 1)
      match rest with
      | [] =>
          let (message, code) := invalidDirective w raw none
          ⟨[], [message], code, args, false, true⟩
      | letter :: rest => match field? w d letter (left.headD []) with
        | none =>
            let (message, code) := invalidDirective w raw (some letter)
            ⟨[], [message], code, args, false, true⟩
        | some f =>
            if f.ended then ⟨f.octets, f.faults, f.code, left.drop 1, true, true⟩
            else (((applyFrom w n rest (left.drop 1)).taking.after f.octets).saying
              f.faults f.code)
  | n + 1, c :: cs, args => (applyFrom w n cs args).after [c]

/-- A format applied until the arguments are used up. The number bounds the rounds. -/
def roundsFrom (w : FormatWriter) : Nat → Octets → List Octets → Formatted
  | 0, _, args => ⟨[], [], 0, args, false, false⟩
  | n + 1, fmt, args =>
      let f := applyFrom w fmt.length fmt args
      if f.ended || !f.took || f.left.isEmpty then f
      else ((roundsFrom w n fmt f.left).after f.octets).saying f.faults f.code

/-- A format applied until the arguments are used up: each round but the first takes one at
least. -/
def apply (w : FormatWriter) (fmt : Octets) (args : List Octets) : Formatted :=
  roundsFrom w (args.length + 1) fmt args

end Format

end Script

end LineShell
