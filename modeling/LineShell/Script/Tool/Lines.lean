import LineShell.Script.Tool.Basic

/-!
# Lines of files

How tools get at the lines of files.

Main statement: `linesOf_unlines`, by which lines written one below the other are read back.
-/

namespace LineShell

namespace Script

/-- Lines that are written one below the other, cut at the ends of line. -/
theorem splitOn_unlines {ls : List Octets} (h : ∀ l ∈ ls, '\n' ∉ l) :
    (unlines ls).splitOn '\n' = ls ++ [[]] := by
  induction ls with
  | nil => rfl
  | cons l ls ih =>
    have hl := h l (by simp)
    have hs := ih fun m hm => h m (by simp [hm])
    have hc : unlines (l :: ls) = l ++ '\n' :: unlines ls := by simp [unlines]
    rw [hc, List.splitOn_append_cons_self_of_not_mem hl, hs]
    rfl

/-- Lines that are written one below the other are read back. -/
theorem linesOf_unlines {ls : List Octets} (h : ∀ l ∈ ls, '\n' ∉ l) :
    linesOf (unlines ls) = ls := by
  simp [linesOf, splitOn_unlines h]

namespace Tool

/-! ### Reading -/

/-- Saying that a file cannot be read. -/
def sayOf (c : Call) (name : Octets) (fault : String) : Task Unit :=
  say c (quoteIfNeeded name ++ octetsOf ": " ++ octetsOf fault)

/-- What can be read under names, in order, and whether all of it can be. -/
def readAll (c : Call) (names : List Octets) : Task (List (Octets × Octets) × Bool) := do
  let parts ← (sourcesOf names).mapM fun n => do
    match ← readSource n with
    | .ok cs => return some (n, cs)
    | .error e => do
        sayOf c n e
        return none
  return (parts.filterMap id, parts.all Option.isSome)

/-- The pieces of a text that end with a mark, each with its mark if it has one. -/
def keptPieces (mark : Char) (cs : Octets) : List Octets :=
  let ls := cs.splitOn mark
  let whole := ls.dropLast.map (· ++ [mark])
  match ls.getLast? with
  | some (c :: rest) => whole ++ [c :: rest]
  | _ => whole

/-- The lines of a text, each with its end of line if it has one. -/
def keptLines (cs : Octets) : List Octets := keptPieces '\n' cs

/-- The pieces of a text that end with a mark, without their marks. -/
def piecesOf (mark : Char) (cs : Octets) : List Octets :=
  let ls := cs.splitOn mark
  if ls.getLast? = some [] then ls.dropLast else ls

/-- Pieces as a text, with a mark at the end of each. -/
def unpieces (mark : Char) (ls : List Octets) : Octets := ls.flatMap (· ++ [mark])

/-- The mark with which lines end: the null character if an option asks for it. -/
def lineMark (a : Arguments) : Char := if a.has 'z' then '\x00' else '\n'

end Tool

end Script

end LineShell
