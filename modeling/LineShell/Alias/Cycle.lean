import LineShell.Alias.Table

/-!
# Walks through aliases

An alias leads to the first word of its text, which may be an alias itself. `Table.hasCycle` asks
whether the walk that begins at a name comes back to it. The walk never looks at a name twice, so
it is followed over the aliases that are left; when it arrives at a name that is not among them, it
has ended or has run into a loop that leaves out the name it began with.

Main statements: `Reaches.trans` (walks can be joined) and `isAcyclic_empty` (a table without aliases
has no loop).
-/

namespace LineShell

namespace Alias

/-- The pairs whose name is another. -/
def without (name : String) (es : List (String × String)) : List (String × String) :=
  es.filter (·.1 != name)

theorem length_without_lt {name text : String} {es : List (String × String)}
    (h : es.lookup name = some text) : (without name es).length < es.length := by
  induction es with
  | nil => cases h
  | cons e es ih =>
      obtain ⟨n, t⟩ := e
      by_cases hn : n = name
      · subst hn
        have := List.length_filter_le (fun e : String × String => e.1 != n) es
        simp only [without, List.filter_cons, bne_self_eq_false, List.length_cons]
        simp only [Bool.false_eq_true, if_false]
        omega
      · rw [List.lookup_cons, beq_eq_false_iff_ne.mpr (Ne.symm hn)] at h
        have := ih h
        simp only [without, List.filter_cons, bne_iff_ne, ne_eq, hn, not_false_eq_true, if_true,
          List.length_cons] at this ⊢
        omega

/-- Whether the walk that stands at `current`, with these aliases left to look at, arrives at
`name`. -/
def arrives (name : String) (left : List (String × String)) (current : String) : Bool :=
  if current = name then true
  else match _h : left.lookup current with
    | none => false
    | some text => arrives name (without current left) (Text.firstWord text)
termination_by left.length
decreasing_by exact length_without_lt _h

/-- Whether the walk that begins at a name comes back to it. -/
def Table.hasCycle (t : Table) (name : String) : Bool :=
  match t.lookup name with
  | none => false
  | some text => arrives name (without name t.entries) (Text.firstWord text)

/-- The name to which an alias leads: the first word of its text. -/
def Table.next? (t : Table) (name : String) : Option String :=
  (t.lookup name).map Text.firstWord

/-- The names that a walk can arrive at, after one step or more. -/
inductive Table.Reaches (t : Table) : String → String → Prop where
  /-- One step. -/
  | step {a b : String} (h : t.next? a = some b) : t.Reaches a b
  /-- A step before a walk. -/
  | head {a b c : String} (h : t.next? a = some b) (rest : t.Reaches b c) : t.Reaches a c

/-- Whether no walk ever comes back to a name. -/
def Table.IsAcyclic (t : Table) : Prop := ∀ name, ¬ t.Reaches name name

/-- A walk can be gone on. -/
theorem Table.Reaches.trans {t : Table} {a b c : String} (hab : t.Reaches a b)
    (hbc : t.Reaches b c) : t.Reaches a c := by
  induction hab with
  | step h => exact .head h hbc
  | head h _ ih => exact .head h (ih hbc)

/-- Nothing leads anywhere when nothing is defined. -/
theorem Table.isAcyclic_empty : Table.empty.IsAcyclic := by
  intro name h
  cases h with
  | step h => cases h
  | head h _ => cases h

end Alias

end LineShell
