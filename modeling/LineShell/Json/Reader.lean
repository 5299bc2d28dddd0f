import LineShell.Json.Token

/-!
# Reading JSON

A machine reads one token after another. It keeps the containers that are open, the innermost
first, and what may come next. So the nesting of a text is the length of a list, and reading stops
at a container that would be nested too deeply. How many may be open depends on the machine and is
given with the text.

Main statements: `openLength_place` (the end of a value closes no container around it) and
`openLength_beginValue_le` (the first token of a value opens one container at most).
-/

namespace LineShell

namespace Json

/-- A container that is open. -/
inductive Frame where
  /-- A list, with its items, the latest first. -/
  | list (items : List Json)
  /-- An object with its members, and the name whose value is being read. -/
  | object (members : List (WideText × Json)) (name : WideText)
deriving Repr

/-- The containers that are open, the innermost first. -/
abbrev Frames := List Frame

/-- What may come next. -/
inductive State where
  /-- A value. -/
  | value (outer : Frames)
  /-- The first item of a list, or its end. -/
  | firstItem (outer : Frames)
  /-- The first name of an object, or its end. -/
  | firstName (outer : Frames)
  /-- A name of an object. -/
  | name (members : List (WideText × Json)) (outer : Frames)
  /-- The colon behind a name. -/
  | colon (members : List (WideText × Json)) (name : WideText) (outer : Frames)
  /-- A comma in a list, or its end. -/
  | nextItem (items : List Json) (outer : Frames)
  /-- A comma in an object, or its end. -/
  | nextMember (members : List (WideText × Json)) (outer : Frames)
  /-- Nothing. -/
  | done (v : Json)
deriving Repr

/-- The two kinds of containers. -/
inductive Container where
  /-- A list. -/
  | list
  /-- An object. -/
  | object
deriving DecidableEq, Repr

/-- Why a text is not read. -/
inductive ReadError where
  /-- It is not JSON, or holds a numeral that is too long. -/
  | invalid
  /-- A container is nested too deeply. -/
  | tooDeep (c : Container)
deriving DecidableEq, Repr

/-- The wording of an error. -/
def ReadError.message : ReadError → String
  | invalid => "invalid"
  | tooDeep .list =>
      "maximum recursion depth exceeded while decoding a JSON array from a unicode string"
  | tooDeep .object =>
      "maximum recursion depth exceeded while decoding a JSON object from a unicode string"

/-- The state behind a value. -/
def place (v : Json) : Frames → State
  | [] => .done v
  | .list items :: outer => .nextItem (v :: items) outer
  | .object members name :: outer => .nextMember (setMember name v members) outer

/-- A container opened inside those that are open, of which there may be so many. -/
def openContainer (nesting : Nat) (c : Container) (outer : Frames) : Except ReadError State :=
  if nesting ≤ outer.length then .error (.tooDeep c)
  else match c with
    | .list => .ok (.firstItem outer)
    | .object => .ok (.firstName outer)

/-- The state behind the first token of a value. -/
def beginValue (nesting : Nat) (outer : Frames) : Token → Except ReadError State
  | .openList => openContainer nesting .list outer
  | .openObject => openContainer nesting .object outer
  | .text s => .ok (place (.str s) outer)
  | .scalar v => .ok (place v outer)
  | _ => .error .invalid

/-- The state behind one token more. -/
def step (nesting : Nat) : State → Token → Except ReadError State
  | .value outer, t => beginValue nesting outer t
  | .firstItem outer, .closeList => .ok (place (.arr []) outer)
  | .firstItem outer, t => beginValue nesting (.list [] :: outer) t
  | .firstName outer, .closeObject => .ok (place (.obj []) outer)
  | .firstName outer, .text s => .ok (.colon [] s outer)
  | .name members outer, .text s => .ok (.colon members s outer)
  | .colon members s outer, .colon => .ok (.value (.object members s :: outer))
  | .nextItem items outer, .comma => .ok (.value (.list items :: outer))
  | .nextItem items outer, .closeList => .ok (place (.arr items.reverse) outer)
  | .nextMember members outer, .comma => .ok (.name members outer)
  | .nextMember members outer, .closeObject => .ok (place (.obj members) outer)
  | _, _ => .error .invalid

/-- The value that a text writes, if so many containers may be open. -/
def read (nesting : Nat) (cs : List Char) : Except ReadError Json := do
  match ← (tokens cs).foldlM (step nesting) (.value []) with
  | .done v => return v
  | _ => throw .invalid

/-! ### What a step does to the open containers -/

/-- How many containers are open. -/
def State.openLength : State → Nat
  | value outer => outer.length
  | firstItem outer | firstName outer | name _ outer | colon _ _ outer => outer.length + 1
  | nextItem _ outer | nextMember _ outer => outer.length + 1
  | done _ => 0

/-- The end of a value leaves the containers around it open. -/
theorem openLength_place (v : Json) (outer : Frames) : (place v outer).openLength = outer.length := by
  cases outer with
  | nil => rfl
  | cons f fs => cases f <;> rfl

/-- The first token of a value opens one container at most. -/
theorem openLength_beginValue_le {nesting : Nat} {outer : Frames} {t : Token} {s : State}
    (h : beginValue nesting outer t = .ok s) : s.openLength ≤ outer.length + 1 := by
  cases t <;> simp only [beginValue, openContainer, reduceCtorEq, Except.ok.injEq] at h
  · split at h <;> cases h
    simp [State.openLength]
  · split at h <;> cases h
    simp [State.openLength]
  · subst h; simp [openLength_place]
  · subst h; simp [openLength_place]

end Json

end LineShell
