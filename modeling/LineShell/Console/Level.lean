import LineShell.Text.Wide

/-!
# Levels of the log

How much is written to the log. A level is asked for by its name, in any case; most other texts ask
for nothing in particular and stand for the common level. Two texts are names of something that is
no level, and are refused.

Main statements: `ofCapitals_of_not_mem` (what is no name stands for the common level) and
`showsNotes_iff` (the levels that show notes).
-/

namespace LineShell

namespace Level

/-- The levels with their names; a note has the level of `DEBUG`. -/
def names : List (String × Nat) :=
  [("CRITICAL", 50), ("FATAL", 50), ("ERROR", 40), ("WARN", 30), ("WARNING", 30), ("INFO", 20),
    ("DEBUG", 10), ("NOTSET", 0)]

/-- The level of a note. -/
def note : Nat := 10

/-- The common level. -/
def common : Nat := 30

/-- Why no level can be set. -/
inductive Error where
  /-- The name is that of the layout of records. -/
  | layout
  /-- The name is that of the table of layouts. -/
  | layouts
deriving DecidableEq, Repr

/-- The wording of an error. -/
def Error.message : Error → String
  | layout => "Unknown level: '%(levelname)s:%(name)s:%(message)s'"
  | layouts =>
      "Level not an integer or a valid string: \x7b'%': (<class 'logging.PercentStyle'>, " ++
        "'%(levelname)s:%(name)s:%(message)s'), '\x7b': (<class 'logging.StrFormatStyle'>, " ++
        "'\x7blevelname\x7d:\x7bname\x7d:\x7bmessage\x7d'), " ++
        "'$': (<class 'logging.StringTemplateStyle'>, " ++
        "'$\x7blevelname\x7d:$\x7bname\x7d:$\x7bmessage\x7d')\x7d"

/-- The level of a name in capitals. -/
def ofCapitals (name : String) : Except Error Nat :=
  match names.lookup name with
  | some n => .ok n
  | none =>
      if name = "BASIC_FORMAT" then .error .layout
      else if name = "_STYLES" then .error .layouts
      else .ok common

/-- The level that a text asks for; one with surrogates in it is no name. -/
def ofName (name : WideText) : Except Error Nat :=
  match name.upper.toString? with
  | some capitals => ofCapitals capitals
  | none => .ok common

/-- The level that is set: by the environment if it asks for one, else by the settings. -/
def choose (environment settings : Option WideText) : Except Error Nat :=
  match environment with
  | some name =>
      if name.isEmpty then ofName (settings.getD "WARNING") else ofName name
  | none => ofName (settings.getD "WARNING")

/-- Whether notes are shown at a level. -/
def showsNotes (level : Nat) : Bool := level ≤ note

theorem showsNotes_iff {level : Nat} : showsNotes level = true ↔ level ≤ 10 :=
  decide_eq_true_iff

/-- What is no name stands for the common level. -/
theorem ofCapitals_of_not_mem {name : String} (h : names.lookup name = none)
    (hf : name ≠ "BASIC_FORMAT") (hs : name ≠ "_STYLES") : ofCapitals name = .ok common := by
  simp [ofCapitals, h, hf, hs]

end Level

end LineShell
