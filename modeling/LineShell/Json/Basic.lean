import LineShell.Binary64.Shortest
import LineShell.Numeral.Signed
import LineShell.Text.Wide

/-!
# JSON values

The values of a settings file. Whole numbers and numbers with a fraction or an exponent are kept
apart, and the members of an object stay in the order in which their names were first given. Texts
and names may hold surrogates that stand alone.

A value can be shown as one line of text (`Json.display`). A text is shown as it stands, and
between marks when it is part of something else.

Main statement: `lookup_setMember`, which says what an object holds after a member is given.
-/

namespace LineShell

/-- A JSON value. -/
inductive Json where
  /-- The absent value. -/
  | null
  /-- A truth value. -/
  | bool (b : Bool)
  /-- A whole number. -/
  | int (n : Int)
  /-- A number with a fraction or an exponent, or one of the special numbers. -/
  | float (x : Binary64)
  /-- A text. -/
  | str (s : WideText)
  /-- A list. -/
  | arr (items : List Json)
  /-- An object: names with their values. -/
  | obj (members : List (WideText × Json))
deriving Repr

namespace Json

/-! ### Members -/

/-- Members with a value given to a name: in the name's place if it has one, else at the end. -/
def setMember (name : WideText) (value : Json) : List (WideText × Json) → List (WideText × Json)
  | [] => [(name, value)]
  | (n, v) :: rest => if n = name then (n, value) :: rest else (n, v) :: setMember name value rest

/-- A name that is given has its value; the other names keep theirs. -/
theorem lookup_setMember (name : WideText) (value : Json) (other : WideText)
    (ms : List (WideText × Json)) :
    (setMember name value ms).lookup other =
      if other = name then some value else ms.lookup other := by
  induction ms with
  | nil =>
      by_cases h : other = name
      · simp [setMember, h]
      · simp [setMember, List.lookup_cons, beq_eq_false_iff_ne.mpr h, h]
  | cons m ms ih =>
      obtain ⟨n, v⟩ := m
      by_cases h : n = name
      · subst h
        by_cases ho : other = n
        · simp [setMember, ho]
        · simp [setMember, List.lookup_cons, beq_eq_false_iff_ne.mpr ho, ho]
      · simp only [setMember, if_neg h]
        by_cases ho : other = n
        · subst ho; simp [h]
        · simp only [List.lookup_cons, beq_eq_false_iff_ne.mpr ho, ih]

/-! ### Truth -/

/-- Whether a value counts as given: all do but the absent value, the false one, zeros, and what
is empty. -/
def isTruthy : Json → Bool
  | null => false
  | bool b => b
  | int n => n != 0
  | float x => !x.isZero
  | str s => !s.isEmpty
  | arr items => !items.isEmpty
  | obj members => !members.isEmpty

/-! ### Showing -/

/-- Parts with a comma and a space between them. -/
def separated (parts : List (List Char)) : List Char := [',', ' '].intercalate parts

mutual

/-- A value as it is shown inside another. -/
def nestedChars : Json → List Char
  | null => "None".toList
  | bool b => if b then "True".toList else "False".toList
  | int n => Numeral.signedDigits n
  | float x => x.text.toList
  | str s => s.quotedChars
  | arr items => '[' :: separated (itemsChars items) ++ [']']
  | obj members => '\x7b' :: separated (membersChars members) ++ ['\x7d']

/-- The items of a list as they are shown. -/
def itemsChars : List Json → List (List Char)
  | [] => []
  | v :: vs => nestedChars v :: itemsChars vs

/-- The members of an object as they are shown. -/
def membersChars : List (WideText × Json) → List (List Char)
  | [] => []
  | (name, v) :: ms =>
      (name.quotedChars ++ ':' :: ' ' :: nestedChars v) :: membersChars ms

end

/-- A value as it is shown by itself. -/
def display : Json → WideText
  | str s => s
  | v => String.ofList (nestedChars v)

end Json

end LineShell
