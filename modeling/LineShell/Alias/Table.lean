import LineShell.Text.Blank

/-!
# The alias table

Aliases with their texts, in the order in which the names were first given. No name occurs twice:
giving a name again replaces its text and keeps its place.

Main statements: `lookup_set_self` and `lookup_set_of_ne` (what a table holds after a text is
given), `names_set` (which names it has, and in what order).
-/

namespace LineShell

namespace Alias

/-- A list of pairs with a text given to a name: in the name's place if it has one, else at the
end. -/
def setEntry (name text : String) : List (String × String) → List (String × String)
  | [] => [(name, text)]
  | (n, t) :: rest => if n = name then (n, text) :: rest else (n, t) :: setEntry name text rest

theorem map_fst_setEntry (name text : String) (es : List (String × String)) :
    (setEntry name text es).map Prod.fst =
      if name ∈ es.map Prod.fst then es.map Prod.fst else es.map Prod.fst ++ [name] := by
  induction es with
  | nil => simp [setEntry]
  | cons e es ih =>
      obtain ⟨n, t⟩ := e
      by_cases h : n = name
      · simp [setEntry, h]
      · have h' : ¬ name = n := fun h' => h h'.symm
        simp only [setEntry, if_neg h, List.map_cons, List.mem_cons, h', false_or, ih]
        split <;> simp

theorem lookup_setEntry (name text other : String) (es : List (String × String)) :
    (setEntry name text es).lookup other = if other = name then some text else es.lookup other := by
  induction es with
  | nil =>
      by_cases h : other = name
      · simp [setEntry, h]
      · simp [setEntry, List.lookup_cons, beq_eq_false_iff_ne.mpr h, h]
  | cons e es ih =>
      obtain ⟨n, t⟩ := e
      by_cases h : n = name
      · subst h
        by_cases ho : other = n
        · simp [setEntry, ho]
        · simp [setEntry, List.lookup_cons, beq_eq_false_iff_ne.mpr ho, ho]
      · simp only [setEntry, if_neg h]
        by_cases ho : other = n
        · subst ho; simp [h]
        · simp only [List.lookup_cons, beq_eq_false_iff_ne.mpr ho, ih]

/-- Names with their texts, in the order in which the names were first given. -/
structure Table where
  /-- The names with their texts. -/
  entries : List (String × String)
  /-- No name occurs twice. -/
  nodup : (entries.map Prod.fst).Nodup

namespace Table

/-- Tables are equal when their entries are. -/
@[ext] theorem ext {t u : Table} (h : t.entries = u.entries) : t = u := by
  cases t; cases u; simp_all

instance : DecidableEq Table := fun t u =>
  decidable_of_iff (t.entries = u.entries) ⟨Table.ext, fun h => h ▸ rfl⟩

/-- The table without aliases. -/
def empty : Table := ⟨[], List.nodup_nil⟩

/-- How many aliases there are. -/
def length (t : Table) : Nat := t.entries.length

/-- The names, in the order of the table. -/
def names (t : Table) : List String := t.entries.map Prod.fst

/-- The text of a name. -/
def lookup (t : Table) (name : String) : Option String := t.entries.lookup name

/-- The table with a text given to a name. -/
def set (t : Table) (name text : String) : Table where
  entries := setEntry name text t.entries
  nodup := by
    rw [map_fst_setEntry]
    split
    · exact t.nodup
    · next h =>
      rw [List.nodup_append]
      refine ⟨t.nodup, by simp, ?_⟩
      intro a ha b hb
      rw [List.mem_singleton] at hb
      subst hb
      exact fun hab => h (hab ▸ ha)

/-- The table that a list of names and texts gives, one after another. -/
def ofList (es : List (String × String)) : Table :=
  es.foldl (fun t e => t.set e.1 e.2) empty

@[simp] theorem lookup_empty (name : String) : empty.lookup name = none := rfl

@[simp] theorem lookup_set_self (t : Table) (name text : String) :
    (t.set name text).lookup name = some text := by
  simp [lookup, set, lookup_setEntry]

theorem lookup_set_of_ne (t : Table) {name other : String} (text : String) (h : other ≠ name) :
    (t.set name text).lookup other = t.lookup other := by
  simp [lookup, set, lookup_setEntry, h]

/-- A name that is known keeps its place; a new one comes last. -/
theorem names_set (t : Table) (name text : String) :
    (t.set name text).names = if name ∈ t.names then t.names else t.names ++ [name] :=
  map_fst_setEntry name text t.entries

/-- A command with its leading word replaced by the words of its text, if that word is an alias
with a text. -/
def expand (t : Table) : List String → List String
  | [] => []
  | w :: ws => match t.lookup w with
    | none => w :: ws
    | some text => if text.isEmpty then w :: ws else Text.words text ++ ws

end Table

end Alias

end LineShell
