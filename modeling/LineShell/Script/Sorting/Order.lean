import LineShell.Script.Sorting.Key

/-!
# Orders of lines

Lines are compared by keys, one after the other, and as a whole where all keys are alike, unless they
are then to count as equal.

Main statements: `perm_sortLines`, by which sorting lines neither loses nor adds one, and
`mem_of_mem_dropRepeated`, by which no new line comes about where repeated ones are left out.
-/

namespace LineShell

namespace Script

namespace Sorting

/-- How lines are ordered. -/
structure Order where
  /-- The keys. -/
  keys : List Key
  /-- The mark between fields; blanks if there is none. -/
  mark : Option Char
  /-- Whether lines are compared by the keys only. -/
  byKeysOnly : Bool
  /-- Whether the order of lines as a whole is turned round. -/
  isReversed : Bool
deriving DecidableEq, Repr

namespace Order

/-- How two lines stand to one another by keys; the first difference counts. -/
def byKeys (mark : Option Char) (a b : Octets) : List Key → Ordering
  | [] => .eq
  | k :: ks => match k.compare mark a b with
    | .eq => byKeys mark a b ks
    | o => o

/-- How two lines stand to one another. Without keys they are always compared as a whole. -/
def compare (o : Order) (a b : Octets) : Ordering :=
  match byKeys o.mark a b o.keys with
  | .eq =>
      if o.byKeysOnly && !o.keys.isEmpty then .eq
      else if o.isReversed then compareOctets b a else compareOctets a b
  | r => r

/-- Whether a line may stand before another. -/
def le (o : Order) (a b : Octets) : Bool := o.compare a b != .gt

end Order

/-- Lines in order. -/
def sortLines (o : Order) (ls : List Octets) : List Octets := ls.mergeSort o.le

/-- Sorting neither loses nor adds a line. -/
theorem perm_sortLines (o : Order) (ls : List Octets) : (sortLines o ls).Perm ls :=
  List.mergeSort_perm ls _

/-- The lines of several texts in order, if each of them is. -/
def mergeLines (o : Order) (texts : List (List Octets)) : List Octets :=
  texts.foldl (fun ls more => ls.merge more o.le) []

/-- Lines without those that count as equal to the line before. -/
def dropRepeated (o : Order) : List Octets → List Octets
  | [] => []
  | [l] => [l]
  | l :: m :: ls =>
      if o.compare l m = .eq then dropRepeated o (l :: ls) else l :: dropRepeated o (m :: ls)
termination_by ls => ls.length

/-- No new line comes about where repeated ones are left out. -/
theorem mem_of_mem_dropRepeated {o : Order} {l : Octets} {ls : List Octets}
    (h : l ∈ dropRepeated o ls) : l ∈ ls := by
  fun_induction dropRepeated o ls with
  | case1 => exact h
  | case2 => exact h
  | case3 a b rest _ ih =>
    rcases List.mem_cons.mp (ih h) with h | h
    · simp [h]
    · simp [h]
  | case4 a b rest _ ih =>
    rcases List.mem_cons.mp h with h | h
    · simp [h]
    · exact List.mem_cons_of_mem _ (ih h)

/-- The first line that stands behind one that it should stand before, with its number; lines that
count as equal are out of order if each is to stand there once. -/
def disorder? (o : Order) (once : Bool) : Nat → List Octets → Option (Nat × Octets)
  | n, a :: b :: ls =>
      let r := o.compare a b
      if r = .gt || (once && r = .eq) then some (n + 1, b) else disorder? o once (n + 1) (b :: ls)
  | _, _ => none

end Sorting

end Script

end LineShell
