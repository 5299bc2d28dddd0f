import LineShell.Text.Blank

/-!
# Segments of a line

A line holds one command or several joined by `&&` and `||`. `Segment.ofLine` cuts a line at these
operators, from left to right and without regard to quotes; the text of each segment is trimmed.
A segment may be empty, and a single `&` or `|` belongs to its text. `Segment.unsplit` is the way
back.

Main statement: `ofLine_ne_nil`, by which a line has one segment at least.
-/

namespace LineShell

/-- The operators that join commands. -/
inductive ChainOperator where
  /-- Go on if the command before succeeded. -/
  | andThen
  /-- Go on if the command before failed. -/
  | orElse
deriving DecidableEq, Repr

namespace ChainOperator

/-- The spelling of an operator. -/
def symbol : ChainOperator → String
  | andThen => "&&"
  | orElse => "||"

/-- Whether a segment behind the operator is executed, given the outcome before it. -/
def admits : ChainOperator → Bool → Bool
  | andThen, succeeded => succeeded
  | orElse, succeeded => !succeeded

end ChainOperator

/-- A part of a line, with the operator before it; the first part has none. -/
structure Segment where
  /-- The operator before the segment. -/
  operator : Option ChainOperator
  /-- The command. -/
  text : String
deriving DecidableEq, Repr

namespace Segment

/-- A line cut at its operators: the text before the first one, and each operator with the text
behind it. -/
def cutAtOperators : List Char → List Char × List (ChainOperator × List Char)
  | [] => ([], [])
  | '&' :: '&' :: cs =>
      let (text, rest) := cutAtOperators cs
      ([], (.andThen, text) :: rest)
  | '|' :: '|' :: cs =>
      let (text, rest) := cutAtOperators cs
      ([], (.orElse, text) :: rest)
  | c :: cs =>
      let (text, rest) := cutAtOperators cs
      (c :: text, rest)

/-- The segments of a line. -/
def ofLine (line : String) : List Segment :=
  let (first, rest) := cutAtOperators line.toList
  ⟨none, String.ofList (Chars.trim first)⟩ ::
    rest.map fun (op, text) => ⟨some op, String.ofList (Chars.trim text)⟩

/-- A segment as it stands in a line behind others. -/
def joined (s : Segment) : List Char :=
  match s.operator with
  | none => s.text.toList
  | some op => ' ' :: op.symbol.toList ++ ' ' :: s.text.toList

/-- The line that segments make, with a blank at either side of each operator. -/
def unsplit (ss : List Segment) : String := String.ofList (ss.flatMap joined)

/-- A line has one segment at least, and the first has no operator. -/
theorem ofLine_ne_nil (line : String) :
    ∃ text rest, ofLine line = ⟨none, text⟩ :: rest := ⟨_, _, rfl⟩

end Segment

end LineShell
