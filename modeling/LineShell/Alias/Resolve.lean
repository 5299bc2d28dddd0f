import LineShell.Alias.Table

/-!
# Resolving a command

The leading word of a command is expanded again and again until an expansion changes nothing. Only
so many passes are made, and a leading word that was met before ends the search, since it would
come back for ever.
-/

namespace LineShell

namespace Alias

/-- Why a command is not resolved. -/
inductive ResolveError where
  /-- A leading word came back. -/
  | loop
  /-- More passes were due than are made. -/
  | tooDeep (maxPasses : Int)
deriving DecidableEq, Repr

/-- The wording of an error. -/
def ResolveError.message : ResolveError → String
  | loop => "Expansion loop detected"
  | tooDeep n => s!"Expansion depth exceeded (max_passes={n})"

/-- Expansion with so many passes left, after the leading words in `seen`; a command without words
has no leading word, which counts as one of its own. -/
def resolveFrom (t : Table) (maxPasses : Int) (seen : List (Option String)) :
    Nat → List String → Except ResolveError (List String)
  | 0, _ => .error (.tooDeep maxPasses)
  | n + 1, ws =>
      if seen.contains ws.head? then .error .loop
      else
        let expanded := t.expand ws
        if expanded = ws then .ok ws
        else resolveFrom t maxPasses (ws.head? :: seen) n expanded

/-- A command with its leading word expanded as far as it goes. -/
def Table.resolve (t : Table) (maxPasses : Int) (ws : List String) :
    Except ResolveError (List String) :=
  resolveFrom t maxPasses [] maxPasses.toNat ws

end Alias

end LineShell
