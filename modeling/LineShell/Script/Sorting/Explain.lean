import LineShell.Script.Sorting.Order

/-!
# Explaining an order

Lines can be written with the pieces marked by which they have been compared, and an order can be
looked over for what its author has perhaps not meant.

Main statement: `explainLine_ne_nil`, by which there is something to be seen below every line.
-/

namespace LineShell

namespace Script

namespace Sorting

/-! ### Marks -/

/-- How many columns octets take; a tabulator is shown as one. -/
def columnsOf (cs : Octets) : Nat :=
  (cs.filter fun c => c == '\t' || !(c.toNat < 32 || c.toNat == 127)).length

/-- A row of marks below so many columns, behind so many others. -/
def markRow (offset width : Nat) : Octets :=
  List.replicate offset ' ' ++
    (if width = 0 then octetsOf "^ no match for key" else List.replicate width '_') ++ ['\n']

/-- How many octets of a piece without blanks in front have been used in the comparison. -/
def usedOf (s : Style) (cs : Octets) : Nat :=
  if s.has 'M' then (if monthAt cs = 0 then 0 else 3)
  else if s.has 'g' then cs.length - (AnyNumber.read cs).2.length
  else if s.isNumeric then
    let n := PlainNumber.read cs
    if n.digits.isEmpty then 0
    else
      let unit := if s.has 'h' && PlainNumber.powerOf n.rest != 0 then 1 else 0
      cs.length - n.rest.length + unit
  else cs.length

/-- The row of marks for a key of a line. -/
def Key.row (k : Key) (mark : Option Char) (l : Octets) : Octets :=
  let start := k.startIn mark l
  let piece := k.pieceOf mark l
  if k.style.isNumeric || k.style.has 'M' then
    let inner := trimmed piece
    let start := start + (piece.length - inner.length)
    markRow (columnsOf (l.take start)) (columnsOf (inner.take (usedOf k.style inner)))
  else markRow (columnsOf (l.take start)) (columnsOf piece)

/-- A line with marks below it: one row for each key, and one for the line where that decides. -/
def explainLine (o : Order) (l : Octets) : Octets :=
  let rows := o.keys.map fun k => k.row o.mark l
  let whole := if o.byKeysOnly && !o.keys.isEmpty then [] else [markRow 0 (columnsOf l)]
  (l.map fun c => if c = '\t' then '>' else c) ++ '\n' :: (rows ++ whole).flatten

/-- There is something to be seen below every line. -/
theorem explainLine_ne_nil (o : Order) (l : Octets) : explainLine o l ≠ [] := by
  simp [explainLine]

/-! ### Remarks -/

/-- An order as it is asked for: with the style for all keys that have none of their own. -/
structure Intention where
  /-- The order. -/
  order : Order
  /-- The style for all keys. -/
  style : Style
  /-- Whether the only key is the line. -/
  isLineOnly : Bool

namespace Intention

/-- The key of the old notation, and how it is written now. -/
def oldNotation (k : Key) : Octets :=
  let old := octetsOf s!"+{k.start.1}"
  let new := octetsOf s!"-k {k.start.1 + 1}"
  let (old, new) := match k.finish with
    | none => (old, new)
    | some (g, _) => (old ++ octetsOf s!" -{g + 1}", new ++ octetsOf s!",{g + 1}")
  octetsOf "obsolescent key " ++ Tool.quoteText old ++ octetsOf " used; consider " ++
    Tool.quoteText new ++ octetsOf " instead"

/-- Whether a key takes numbers from several fields. -/
def spansNumbers (i : Intention) (k : Key) : Bool :=
  !i.isLineOnly && k.style.isNumeric && k.finish.all fun f => k.start.1 < f.1

/-- Whether the blanks in front of a key count although they are perhaps not meant to. -/
def countsBlanks (i : Intention) (k : Key) : Bool :=
  let isNumber := k.style.isNumeric || k.style.has 'M'
  let isInFirst := match k.finish with
    | some (0, p) => p != 0
    | _ => false
  let endOctets := match k.finish with
    | some (_, p) => p
    | none => 0
  !i.isLineOnly && i.order.mark.isNone && !isInFirst &&
    ((!k.style.trimsStart && (!isNumber || k.start.2 != 0)) ||
      (!k.style.trimsFinish && endOctets != 0))

/-- What is said about the key of a number. -/
def keyRemarks (i : Intention) (number : Nat) (k : Key) : List Octets :=
  let isEmpty := k.start ≠ (0, 0) && k.finish.any fun f => f.1 < k.start.1
  (if k.isOld then [oldNotation k] else []) ++
    (if isEmpty then [octetsOf s!"key {number} has zero width and will be ignored"] else []) ++
    (if !isEmpty && i.countsBlanks k then
      [octetsOf s!"leading blanks are significant in key {number}; consider also specifying 'b'"]
      else []) ++
    (if i.spansNumbers k then [octetsOf s!"key {number} is numeric and spans multiple fields"]
      else [])

/-- What is said about numbers: which mark between fields could belong to one, and how a fraction is
written. -/
def numberRemarks (i : Intention) : List Octets :=
  let spans := i.order.keys.filter i.spansNumbers
  let treated (m : Char) (what : String) : List Octets :=
    [octetsOf "field separator " ++ Tool.quoteText [m] ++
      octetsOf s!" is treated as a {what} in numbers"]
  let separator := match i.order.mark with
    | none => []
    | some m =>
        if spans.isEmpty then []
        else if m = '.' then treated m "decimal point"
        else if m = '-' then treated m "minus sign"
        else if m = '+' && spans.any (·.style.has 'g') then treated m "plus sign"
        else []
  let isPoint := !spans.isEmpty && i.order.mark = some '.'
  separator ++
    (if (i.order.keys.any fun k => k.style.isNumeric) && !isPoint then
      [octetsOf "note numbers use '.' as a decimal point in this locale"] else [])

/-- The style for all keys without what some key has as well. -/
def unusedStyle (i : Intention) : Style :=
  let styles := i.order.keys.map Key.style
  ⟨i.style.letters.filter fun c => !styles.any (·.has c),
    i.style.trimsStart && !styles.any Style.trimsStart,
    i.style.trimsFinish && !styles.any Style.trimsFinish⟩

/-- What is said about options that have no effect, or not the one that may be meant. -/
def styleRemarks (i : Intention) : List Octets :=
  let unused := i.unusedStyle
  let isDecided := i.order.byKeysOnly
  let shown := if isDecided then unused
    else { unused with letters := unused.letters.filter (· != 'r') }
  let hasKeys := !i.order.keys.isEmpty
  (if unused.isSpecial || (unused.has 'r' && isDecided && hasKeys) then
    [octetsOf (if shown.text.length = 1 then "option '-" else "options '-") ++ shown.text ++
      octetsOf (if shown.text.length = 1 then "' is ignored" else "' are ignored")]
    else []) ++
  (if unused.has 'r' && !isDecided && hasKeys then
    [octetsOf "option '-r' only applies to last-resort comparison"] else [])

/-- All that is said about an order. -/
def remarks (i : Intention) : List Octets :=
  octetsOf "text ordering performed using simple byte comparison" ::
    ((i.order.keys.mapIdx fun n k => i.keyRemarks (n + 1) k).flatten ++ i.numberRemarks ++
      i.styleRemarks)

end Intention

end Sorting

end Script

end LineShell
