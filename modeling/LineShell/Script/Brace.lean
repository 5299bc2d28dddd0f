import LineShell.Numeral.Signed
import LineShell.Script.Syntax

/-!
# Alternatives in braces

In the extended dialect a word with alternatives in braces stands for several words, one for each
of them, and a word with two ends of a range in braces for one word for each number or letter of the
range. Only unquoted braces and commas count; braces without a comma and without a range stand for
themselves.
-/

namespace LineShell

namespace Script

namespace Brace

/-- A piece of a word: an unquoted octet, or a part. -/
inductive Piece where
  /-- An unquoted octet. -/
  | octet (c : Char)
  /-- A part. -/
  | part (p : Part)

/-- Whether a piece is an unquoted octet. -/
def Piece.is (p : Piece) (c : Char) : Bool :=
  match p with
  | octet d => d == c
  | part _ => false

/-- A word as pieces. -/
def piecesOf (w : Word) : List Piece :=
  w.flatMap fun
    | .text false cs => cs.map .octet
    | p => [.part p]

/-- Pieces as a word. -/
def ofPieces (ps : List Piece) : Word :=
  Word.ofParts (ps.map fun
    | .octet c => .text false [c]
    | .part p => p)

/-- The octets of pieces, if all of them are octets. -/
def octets? (ps : List Piece) : Option Octets :=
  ps.mapM fun
    | .octet c => some c
    | .part _ => none

/-- The pieces between braces, cut at the commas that lie in no inner braces, and the rest behind the
closing brace. The pieces at hand stand with the last first. -/
def alternatives : Nat → List Piece → List Piece → Option (List (List Piece) × List Piece)
  | _, _, [] => none
  | depth, current, p :: ps =>
      if p.is '\x7d' then match depth with
        | 0 => some ([current.reverse], ps)
        | d + 1 => alternatives d (p :: current) ps
      else if p.is '\x7b' then alternatives (depth + 1) (p :: current) ps
      else if p.is ',' && depth == 0 then
        (alternatives 0 [] ps).map fun r => (current.reverse :: r.1, r.2)
      else alternatives depth (p :: current) ps

/-! ### Ranges -/

/-- A text cut at double dots. -/
def splitDots : Octets → List Octets
  | '.' :: '.' :: cs => [] :: splitDots cs
  | c :: cs => match splitDots cs with
    | l :: ls => (c :: l) :: ls
    | [] => [[c]]
  | [] => [[]]

/-- The whole number that a text writes. -/
def wholeNumber? (cs : Octets) : Option Int :=
  match cs with
  | '-' :: ds => if !ds.isEmpty && ds.all isAsciiDigit then some (-(ofDigits ds : Int)) else none
  | '+' :: ds => if !ds.isEmpty && ds.all isAsciiDigit then some (ofDigits ds) else none
  | ds => if !ds.isEmpty && ds.all isAsciiDigit then some (ofDigits ds) else none

/-- The numbers from one to another, up or down by a step. -/
def range (first last : Int) (step : Nat) : List Int :=
  let step := max step 1
  let count := (last - first).natAbs / step + 1
  (List.range count).map fun i =>
    if first ≤ last then first + (i * step : Nat) else first - (i * step : Nat)

/-- Whether a number is written with zeros in front. -/
def isPadded (cs : Octets) : Bool :=
  match cs with
  | '0' :: _ :: _ => true
  | '-' :: '0' :: _ :: _ => true
  | _ => false

/-- A number filled up with zeros to a width. -/
def padded (width : Nat) (n : Int) : Octets :=
  let ds := Numeral.digits n.natAbs
  let sign := if n < 0 then ['-'] else []
  sign ++ List.replicate (width - ds.length - sign.length) '0' ++ ds

/-- Whether a text is one letter. -/
def letter? (cs : Octets) : Option Nat :=
  match cs with
  | [c] => if c.isAlpha then some c.toNat else none
  | _ => none

/-- The texts of a range. -/
def rangeTexts? (first last : Octets) (step : Nat) : Option (List Octets) :=
  match wholeNumber? first, wholeNumber? last with
  | some a, some b =>
      let width := if isPadded first || isPadded last then max first.length last.length else 0
      some ((range a b step).map (padded width))
  | _, _ => match letter? first, letter? last with
    | some a, some b => some ((range a b step).map fun n => [Char.ofNat n.toNat])
    | _, _ => none

/-- The texts that a range between braces stands for. -/
def range? (ps : List Piece) : Option (List Octets) := do
  match splitDots (← octets? ps) with
  | [first, last] => rangeTexts? first last 1
  | [first, last, step] => rangeTexts? first last (← wholeNumber? step).natAbs
  | _ => none

/-! ### Words -/

/-- The pieces for which pieces stand. The number bounds the steps. -/
def expandPieces : Nat → List Piece → List (List Piece)
  | 0, ps => [ps]
  | _, [] => [[]]
  | n + 1, p :: ps =>
      if p.is '\x7b' then
        let literally := (expandPieces n ps).map (p :: ·)
        match alternatives 0 [] ps with
        | none => literally
        | some ([inner], rest) => match range? inner with
          | some texts => texts.flatMap fun t =>
              (expandPieces n rest).map (t.map Piece.octet ++ ·)
          | none => literally
        | some (options, rest) =>
            (options.flatMap (expandPieces n)).flatMap fun o =>
              (expandPieces n rest).map (o ++ ·)
      else (expandPieces n ps).map (p :: ·)

/-- Whether a word has an unquoted brace. -/
def hasBrace (w : Word) : Bool := w.any fun
  | .text false cs => cs.contains '\x7b'
  | _ => false

/-- The words for which a word stands. -/
def expand (w : Word) : List Word :=
  if hasBrace w then
    let ps := piecesOf w
    (expandPieces (ps.length + 1) ps).map ofPieces
  else [w]

end Brace

end Script

end LineShell
