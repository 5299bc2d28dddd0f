import LineShell.Numeral
import LineShell.Text.Blank

/-!
# History

The log of the lines that were entered, oldest first, and the references that a line can make to
it. Positions count from one. A reference begins with an exclamation mark: a second mark refers to
the last entry, a numeral to the entry at that position, and any other text to the latest entry
that begins with it. A reference to nothing stands for itself.

Main statements: `entry?_eq_getElem?` (positions count from one) and `length_add` (the log grows by
one entry at a time).
-/

namespace LineShell

/-- The lines that were entered, oldest first. -/
structure History where
  /-- The lines, oldest first. -/
  entries : List String
deriving DecidableEq, Repr

/-- A row of the printed history. -/
structure HistoryRow where
  /-- The position, right-aligned. -/
  position : String
  /-- The time of printing. -/
  time : String
  /-- The entry. -/
  text : String
deriving DecidableEq, Repr

namespace History

/-- The log before anything was entered. -/
def empty : History := ⟨[]⟩

/-- How many lines were entered. -/
def length (h : History) : Nat := h.entries.length

/-- The log with one line more. -/
def add (h : History) (line : String) : History := ⟨h.entries ++ [line]⟩

@[simp] theorem entries_add (h : History) (line : String) :
    (h.add line).entries = h.entries ++ [line] := rfl

@[simp] theorem length_add (h : History) (line : String) : (h.add line).length = h.length + 1 := by
  simp [length]

/-! ### Looking entries up -/

/-- The entry at a position, counted from one. -/
def entry? (h : History) : Nat → Option String
  | 0 => none
  | n + 1 => h.entries[n]?

theorem entry?_eq_getElem? (h : History) (n : Nat) : h.entry? (n + 1) = h.entries[n]? := rfl

/-- The latest entry. -/
def last? (h : History) : Option String := h.entries.getLast?

/-- The latest entry that begins with a text. -/
def latestStartingWith? (h : History) (start : String) : Option String :=
  h.entries.reverse.find? fun e => start.toList.isPrefixOf e.toList

/-! ### References -/

/-- What a line that begins with an exclamation mark refers to. -/
inductive Reference where
  /-- The last entry. -/
  | last
  /-- The entry at the position that the digits write. -/
  | position (digits : List Char)
  /-- The latest entry with this beginning. -/
  | start (text : List Char)
deriving DecidableEq, Repr

/-- The reference that stands behind an exclamation mark. -/
def Reference.ofChars (cs : List Char) : Reference :=
  if cs = ['!'] then .last
  else if !cs.isEmpty && cs.all isAsciiDigit then .position cs
  else .start cs

/-- The entry that a reference finds. Only a position can fail, by its length. -/
def resolve (h : History) : Reference → Except Numeral.LimitError (Option String)
  | .last => .ok h.last?
  | .position ds => (Numeral.read ds).map h.entry?
  | .start cs => .ok (h.latestStartingWith? (String.ofList cs))

/-- The line with its reference, if it makes one, resolved. -/
def expand (h : History) (line : String) : Except Numeral.LimitError String :=
  match line.toList with
  | '!' :: cs => (h.resolve (.ofChars cs)).map (·.getD line)
  | _ => .ok line

/-! ### Printing -/

/-- A text pushed to the right end of a field. -/
def alignRight (width : Nat) (cs : List Char) : List Char :=
  List.replicate (width - cs.length) ' ' ++ cs

/-- The rows of the printed history. All carry the time of printing, since entries have none. -/
def rows (h : History) (time : String) : List HistoryRow :=
  let width := Numeral.length h.length
  h.entries.zipIdx.map fun (text, i) =>
    ⟨String.ofList (alignRight width (Numeral.digits (i + 1))), time, text⟩

end History

/-- A row as it is printed. -/
def HistoryRow.line (r : HistoryRow) : String := s!"{r.position}  {r.time}  {r.text}"

end LineShell
