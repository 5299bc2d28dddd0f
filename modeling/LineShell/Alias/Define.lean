import LineShell.Alias.Cycle

/-!
# Defining aliases

The text of an alias is cleaned before it is stored: an equals sign in front and a quotation mark
at either end are spelling, not text. A definition is turned down when no text is left, when the
text begins with the name itself, and when the name would lead back to itself; a table is then
unchanged.

Main statement: `eq_set_of_define`, which says what an accepted definition does.
-/

namespace LineShell

namespace Alias

/-- Whether a character is a quotation mark. -/
def isQuote (c : Char) : Bool := c == '\'' || c == '"'

/-- The text without an equals sign in front. -/
def dropEquals : List Char → List Char
  | '=' :: cs => Chars.trim cs
  | cs => cs

/-- The text without a quotation mark in front. -/
def dropQuote : List Char → List Char
  | [] => []
  | c :: cs => if isQuote c then cs else c :: cs

/-- The text without a quotation mark at its end. -/
def dropFinalQuote (cs : List Char) : List Char := (dropQuote cs.reverse).reverse

/-- The text that is meant by a spelling. -/
def cleanChars (cs : List Char) : List Char :=
  Chars.trim (dropFinalQuote (dropQuote (dropEquals (Chars.trim cs))))

/-- The text that is meant by a spelling. -/
def clean (text : String) : String := String.ofList (cleanChars text.toList)

/-- Why a definition is turned down. -/
inductive Error where
  /-- No text is left. -/
  | empty (name : String)
  /-- The text begins with the name. -/
  | recursive (name : String)
  /-- The name would lead back to itself. -/
  | circular (name : String)
deriving DecidableEq, Repr

/-- The wording of an error. -/
def Error.message : Error → String
  | empty name => s!"Error: Empty alias text for '{name}'"
  | recursive name => s!"Error: Cannot create recursive alias '{name}'"
  | circular name => s!"Error: Circular alias detected for '{name}'"

/-- The table with an alias defined, or why it cannot be. -/
def Table.define (t : Table) (name text : String) : Except Error Table :=
  let expansion := clean text
  if expansion.isEmpty then .error (.empty name)
  else if Text.firstWord expansion = name then .error (.recursive name)
  else if (t.set name expansion).hasCycle name then .error (.circular name)
  else .ok (t.set name expansion)

/-- The tables that come about by definitions; one that is turned down changes nothing. -/
inductive Table.IsDefined : Table → Prop where
  /-- Nothing was defined. -/
  | empty : IsDefined .empty
  /-- One definition more was accepted. -/
  | define {t u : Table} {name text : String} (before : IsDefined t)
      (accepted : t.define name text = .ok u) : IsDefined u

/-- A definition that is accepted gives the cleaned text to the name, and does nothing else. -/
theorem Table.eq_set_of_define {t u : Table} {name text : String}
    (h : t.define name text = .ok u) : u = t.set name (clean text) := by
  unfold Table.define at h
  simp only [] at h
  split at h
  · cases h
  · split at h
    · cases h
    · split at h <;> cases h
      rfl

end Alias

end LineShell
