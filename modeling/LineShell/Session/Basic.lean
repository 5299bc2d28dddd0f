import LineShell.Command.Alias
import LineShell.Command.Calc
import LineShell.Command.Files
import LineShell.Command.Overview
import LineShell.Settings.File

/-!
# Sessions

A session has commands, settings and a state. It starts with the commands of the shell, the
settings of a file, and nothing entered yet.

Main statements: `names_builtins` (the commands, in the order in which they are listed),
`exists_eq_fresh_of_start` (what a session starts with) and `one_le_maxPasses_of_start` (aliases are
expanded at least once).
-/

namespace LineShell

/-- A session. -/
structure Session where
  /-- The commands. -/
  commands : Commands
  /-- The settings that it started with. -/
  settings : Settings
  /-- The state. -/
  store : Store

namespace Session

/-- The commands of the shell, in the order in which they are listed. -/
def builtins : Commands :=
  [("sort", Command.sort), ("tree", Command.tree), ("alias", Command.aliases),
    ("ps", Command.processes), ("history", Command.history), ("calc", Command.calculator),
    ("help", Command.help)]

theorem names_builtins :
    builtins.map Prod.fst = ["sort", "tree", "alias", "ps", "history", "calc", "help"] := rfl

/-- A session with these commands and settings, in which nothing has been entered. -/
def fresh (commands : Commands) (settings : Settings) (disk : Disk) : Session where
  commands := commands
  settings := settings
  store :=
    { history := .empty
      aliases := .empty
      maxPasses := settings.maxPasses
      disk := disk }

/-- A session without commands. -/
def bare (disk : Disk) : Session := fresh [] .default disk

/-- A session that has started, or why it has not, and what was odd about its settings. -/
structure Started where
  /-- The warnings about the settings. -/
  warnings : List Settings.Warning
  /-- The session, or why there is none. -/
  result : Except Settings.Error Session

/-- The session that starts with the commands of the shell and the settings of a file, in which so many
containers may be open. -/
def start (nesting : Nat) (disk : Disk) (path : Option String) : Started :=
  let loaded := Settings.load nesting disk path
  ⟨loaded.warnings, loaded.result.map fun settings => fresh builtins settings disk⟩

/-- The session that goes on from another state. -/
def withStore (s : Session) (store : Store) : Session := { s with store := store }

/-- What the acts of a session can rely on. -/
def context (s : Session) (host : Host) : Context := ⟨host, s.settings.shell⟩

/-- What an act comes to in a session. -/
def perform {α : Type} (s : Session) (host : Host) (x : Act α) : Outcome α :=
  x.run (s.context host) s.store

/-- What a line of input comes to. -/
def run (s : Session) (host : Host) (line : String) : Outcome Bool :=
  s.perform host (runLine s.commands line)

/-- A session that has started has the commands of the shell and the settings that were loaded. -/
theorem exists_eq_fresh_of_start {nesting : Nat} {disk : Disk} {path : Option String} {s : Session}
    (h : (start nesting disk path).result = .ok s) :
    ∃ settings, (Settings.load nesting disk path).result = .ok settings ∧ s = fresh builtins settings disk := by
  simp only [start] at h
  cases hl : (Settings.load nesting disk path).result with
  | error e => rw [hl] at h; cases h
  | ok settings =>
      rw [hl] at h
      cases h
      exact ⟨settings, rfl, rfl⟩

/-- Whatever a file says, aliases are expanded at least once. -/
theorem one_le_maxPasses_of_start {nesting : Nat} {disk : Disk} {path : Option String} {s : Session}
    (h : (start nesting disk path).result = .ok s) : 1 ≤ s.store.maxPasses := by
  obtain ⟨settings, hload, rfl⟩ := exists_eq_fresh_of_start h
  exact Settings.one_le_maxPasses_of_load hload

end Session

end LineShell
