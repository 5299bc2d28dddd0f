import LineShell.Proofs.Alias.Acyclic

/-!
# The search for a loop

A walk is followed step by step (`Table.walk?`): it leads from a name to the first word of its text, for
as long as it stands at names that have one. A search along the walk keeps the names that it has seen,
and is over at the first name without a text and at the first name for the second time; only in the
latter case it may have come back to where it began (`Table.Search`). Nothing is asked of the table: texts
may be empty, the empty text may be a name, and there may be loops anywhere.

`Table.hasCycle` crosses out the names that it has seen instead of keeping them, and stops as soon as it is
back. It gives the answer of the search all the same (`exists_search_arrives`), and since every name that is
seen is crossed out, the search looks at one name more than the table has at most.

That the first repetition decides is because a walk has no choice. If it comes back to its beginning it
goes round in a loop, and everything on the way leads back to the beginning (`walk?_of_closed`); so a loop
without the beginning is never left for it.

**Main statement** (`hasCycle_eq_true_iff_walk?`): the search comes to an end, with one answer; it says yes
exactly if the walk is at its beginning once more after one step or more, and no exactly if the walk
breaks off or runs into a loop that leaves the beginning out.
-/

namespace LineShell

namespace Alias

namespace Table

variable {t : Table} {name : String}

/-! ### Walks by the number of steps -/

/-- Where the walk that begins at a name stands after so many steps, if it goes on for so long. -/
def walk? (t : Table) (name : String) : Nat → Option String
  | 0 => some name
  | n + 1 => (t.walk? name n).bind t.next?

@[simp] theorem walk?_zero (t : Table) (name : String) : t.walk? name 0 = some name := rfl

theorem walk?_succ (t : Table) (name : String) (n : Nat) :
    t.walk? name (n + 1) = (t.walk? name n).bind t.next? := rfl

/-- A walk goes on as the walk does that begins where it stands. -/
theorem walk?_add {a b : String} {m : Nat} (h : t.walk? a m = some b) (n : Nat) :
    t.walk? a (m + n) = t.walk? b n := by
  induction n with
  | zero => simpa using h
  | succ n ih => rw [← Nat.add_assoc, walk?_succ, ih, walk?_succ]

/-- A walk that has come back has come back as often as one likes. -/
theorem walk?_mul {n : Nat} (h : t.walk? name n = some name) (k : Nat) :
    t.walk? name (n * k) = some name := by
  induction k with
  | zero => rfl
  | succ k ih => rw [Nat.mul_succ, walk?_add ih, h]

/-- **On a walk that comes back every name leads back.** -/
theorem walk?_of_closed {n m : Nat} {a : String} (hclosed : t.walk? name (n + 1) = some name)
    (ha : t.walk? name m = some a) : ∃ k, t.walk? a k = some name := by
  -- so many rounds take more than `m` steps
  have hrounds : t.walk? name ((n + 1) * m) = some name := walk?_mul hclosed m
  have hle : m ≤ (n + 1) * m := Nat.le_mul_of_pos_left m (Nat.succ_pos n)
  refine ⟨(n + 1) * m - m, ?_⟩
  rw [← walk?_add ha, Nat.add_sub_cancel' hle]
  exact hrounds

/-- The names that are reached are those at which the walk stands after one step or more. -/
theorem reaches_iff_walk? {a b : String} : t.Reaches a b ↔ ∃ n, t.walk? a (n + 1) = some b := by
  constructor
  · intro h
    induction h with
    | step hstep => exact ⟨0, hstep⟩
    | @head a b c hstep _ ih =>
        obtain ⟨n, hn⟩ := ih
        have hfirst : t.walk? a 1 = some b := hstep
        exact ⟨n + 1, by rw [Nat.add_comm, walk?_add hfirst, hn]⟩
  · rintro ⟨n, hn⟩
    induction n generalizing b with
    | zero => exact .step hn
    | succ n ih =>
        obtain ⟨c, hc, hstep⟩ := Option.bind_eq_some_iff.mp hn
        exact (ih hc).trans (.step hstep)

/-! ### The search -/

/-- What a search for the way back to a name does when it has seen certain names and stands at a further
one: how many names it looks at from then on, and what it answers. -/
inductive Search (t : Table) (name : String) : List String → String → Nat → Bool → Prop where
  /-- The first name that is met for the second time decides. -/
  | again {seen : List String} {current : String} (mem : current ∈ seen) :
      Search t name seen current 1 (decide (current = name))
  /-- A name without a text leads nowhere. -/
  | ends {seen : List String} {current : String} (new : current ∉ seen)
      (last : t.next? current = none) : Search t name seen current 1 false
  /-- Any other name is kept, and the search goes on where it leads. -/
  | goesOn {seen : List String} {current next : String} {n : Nat} {b : Bool} (new : current ∉ seen)
      (step : t.next? current = some next) (rest : Search t name (current :: seen) next n b) :
      Search t name seen current (n + 1) b

/-- A search comes to one end only. -/
theorem Search.unique {seen : List String} {current : String} {m n : Nat} {b b' : Bool}
    (h : t.Search name seen current m b) (h' : t.Search name seen current n b') : b = b' := by
  induction h generalizing n with
  | again mem =>
      cases h' with
      | again _ => rfl
      | ends new _ => exact absurd mem new
      | goesOn new _ _ => exact absurd mem new
  | ends new last =>
      cases h' with
      | again mem => exact absurd mem new
      | ends _ _ => rfl
      | goesOn _ step _ => simp [last] at step
  | goesOn new step rest ih =>
      cases h' with
      | again mem => exact absurd mem new
      | ends _ last => simp [last] at step
      | goesOn _ step' rest' =>
          obtain rfl := Option.some.inj (step.symm.trans step')
          exact ih rest'

/-- **Crossing out what was seen answers as the search does**, and bounds it. -/
theorem exists_search_arrives {seen : List String} {current : String} {left : List (String × String)}
    (hname : name ∈ seen)
    (hleft : ∀ a, left.lookup a = if a ∈ seen then none else t.lookup a) :
    ∃ n, n ≤ left.length + 1 ∧ t.Search name seen current n (arrives name left current) := by
  fun_induction arrives name left current generalizing seen with
  | case1 left =>
      have hback : t.Search name seen name 1 (decide (name = name)) := .again hname
      rw [decide_eq_true rfl] at hback
      exact ⟨1, by omega, hback⟩
  | case2 left current hne hnone =>
      refine ⟨1, by omega, ?_⟩
      by_cases hmem : current ∈ seen
      · -- the walk has run into a loop that leaves out the name
        have hloop : t.Search name seen current 1 (decide (current = name)) := .again hmem
        rwa [decide_eq_false hne] at hloop
      · -- the walk has come to a name that is no alias
        rw [hleft, if_neg hmem] at hnone
        exact .ends hmem (by simp [next?, hnone])
  | case3 left current hne text hlookup ih =>
      have hshorter : (without current left).length < left.length := length_without_lt hlookup
      rw [hleft] at hlookup
      split at hlookup
      · cases hlookup
      · next hmem =>
        have hstep : t.next? current = some (Text.firstWord text) := by simp [next?, hlookup]
        have hseen : ∀ a, (without current left).lookup a =
            if a ∈ current :: seen then none else t.lookup a := by
          intro a
          rw [lookup_without, hleft]
          by_cases hac : a = current <;> simp [hac]
        obtain ⟨n, hn, hsearch⟩ := ih (List.mem_cons_of_mem _ hname) hseen
        exact ⟨n + 1, by omega, .goesOn hmem hstep hsearch⟩

/-- The search that begins at a name has the answer that `hasCycle` gives. -/
theorem exists_search_hasCycle (t : Table) (name : String) :
    ∃ n, n ≤ t.length + 1 ∧ t.Search name [] name n (t.hasCycle name) := by
  rw [hasCycle]
  cases htext : t.lookup name with
  | none => exact ⟨1, by omega, .ends List.not_mem_nil (by simp [next?, htext])⟩
  | some text =>
      have hshorter : (without name t.entries).length < t.length := length_without_lt htext
      have hleft : ∀ a, (without name t.entries).lookup a =
          if a ∈ [name] then none else t.lookup a := by
        intro a
        rw [lookup_without]
        by_cases ha : a = name <;> simp [ha, lookup]
      obtain ⟨n, hn, hsearch⟩ := exists_search_arrives (List.mem_singleton_self name) hleft
      exact ⟨n + 1, by omega, .goesOn List.not_mem_nil (by simp [next?, htext]) hsearch⟩

/-- A walk that is searched breaks off or comes to some name for the second time. -/
theorem Search.exists_walk? {seen : List String} {current : String} {n : Nat} {b : Bool}
    (h : t.Search name seen current n b) (hcurrent : t.walk? name seen.length = some current)
    (hseen : ∀ a ∈ seen, ∃ j < seen.length, t.walk? name j = some a) :
    (∃ k, t.walk? name k = none) ∨
      ∃ a m p, t.walk? name m = some a ∧ t.walk? a (p + 1) = some a := by
  induction h with
  | @again seen current mem =>
      obtain ⟨j, hj, hwalk⟩ := hseen current mem
      refine .inr ⟨current, j, seen.length - j - 1, hwalk, ?_⟩
      rw [← walk?_add hwalk, show j + (seen.length - j - 1 + 1) = seen.length by omega, hcurrent]
  | @ends seen current new last =>
      exact .inl ⟨seen.length + 1, by rw [walk?_succ, hcurrent, Option.bind_some, last]⟩
  | @goesOn seen current next n b new step rest ih =>
      refine ih ?_ ?_
      · rw [List.length_cons, walk?_succ, hcurrent, Option.bind_some, step]
      · intro a ha
        rcases List.mem_cons.mp ha with rfl | ha
        · exact ⟨seen.length, Nat.lt_succ_self _, hcurrent⟩
        · obtain ⟨j, hj, hwalk⟩ := hseen a ha
          exact ⟨j, Nat.lt_succ_of_lt hj, hwalk⟩

/-- Every walk breaks off or runs into a loop. -/
theorem exists_walk?_eq_none_or_loop (t : Table) (name : String) :
    (∃ k, t.walk? name k = none) ∨
      ∃ a m p, t.walk? name m = some a ∧ t.walk? a (p + 1) = some a := by
  obtain ⟨n, -, hsearch⟩ := exists_search_hasCycle t name
  exact hsearch.exists_walk? rfl (by simp)

/-- A walk that breaks off does not come back. -/
theorem walk?_ne_of_eq_none {k : Nat} (hnone : t.walk? name k = none) (n : Nat) :
    t.walk? name (n + 1) ≠ some name := by
  intro hclosed
  have hafter : ∀ d, t.walk? name (k + d) = none := by
    intro d
    induction d with
    | zero => exact hnone
    | succ d ih => rw [← Nat.add_assoc, walk?_succ, ih, Option.bind_none]
  have hle : k ≤ (n + 1) * k := Nat.le_mul_of_pos_left k (Nat.succ_pos n)
  have hrounds := walk?_mul hclosed k
  rw [← Nat.add_sub_cancel' hle, hafter] at hrounds
  cases hrounds

/-- The search finds the walks that come back. -/
theorem hasCycle_iff_walk? : t.hasCycle name = true ↔ ∃ n, t.walk? name (n + 1) = some name := by
  rw [hasCycle_iff_reaches, reaches_iff_walk?]

/-- **The search for a loop through a name.** In any table it comes to an end before it has looked at more
names than the table has and one, and it has one answer. The answer is yes exactly if the walk that begins
at the name is at the name again after one step or more, each from a name of the table to the first word of
its text. It is no exactly if the walk breaks off, or if it comes to a name on a loop from which it never
gets to the name where it began. -/
theorem hasCycle_eq_true_iff_walk? (t : Table) (name : String) :
    (∃ n, n ≤ t.length + 1 ∧ t.Search name [] name n (t.hasCycle name)) ∧
      (∀ b, (∃ n, t.Search name [] name n b) ↔ b = t.hasCycle name) ∧
      (t.hasCycle name = true ↔ ∃ n, t.walk? name (n + 1) = some name) ∧
      (t.hasCycle name = false ↔ (∃ n, t.walk? name n = none) ∨
        ∃ a m p, t.walk? name m = some a ∧ t.walk? a (p + 1) = some a ∧
          ∀ k, t.walk? a k ≠ some name) := by
  obtain ⟨n, hn, hsearch⟩ := exists_search_hasCycle t name
  refine ⟨⟨n, hn, hsearch⟩, fun b => ⟨?_, ?_⟩, hasCycle_iff_walk?, ?_⟩
  · rintro ⟨n', hsearch'⟩
    exact hsearch'.unique hsearch
  · rintro rfl
    exact ⟨n, hsearch⟩
  · rw [← Bool.not_eq_true, hasCycle_iff_walk?]
    constructor
    · intro hnever
      rcases exists_walk?_eq_none_or_loop t name with hnone | ⟨a, m, p, hwalk, hloop⟩
      · exact .inl hnone
      · refine .inr ⟨a, m, p, hwalk, hloop, fun k hk => ?_⟩
        -- from the loop the name would be reached again, a whole round later if need be
        have hround : t.walk? a (p + 1 + k) = some name := by rw [walk?_add hloop, hk]
        refine hnever ⟨m + p + k, ?_⟩
        rw [show m + p + k + 1 = m + (p + 1 + k) by omega, walk?_add hwalk, hround]
    · rintro (⟨k, hnone⟩ | ⟨a, m, p, hwalk, -, hnever⟩) ⟨n, hclosed⟩
      · exact walk?_ne_of_eq_none hnone n hclosed
      · obtain ⟨k, hk⟩ := walk?_of_closed hclosed hwalk
        exact hnever k hk

/-- A loop that the walk only runs into is no loop through its beginning. -/
example : (Table.ofList [("a", "b x"), ("b", "c"), ("c", " b"), ("", "")]).hasCycle "a" = false ∧
    (Table.ofList [("a", "b x"), ("b", "c"), ("c", " b"), ("", "")]).hasCycle "b" = true ∧
    (Table.ofList [("a", "b x"), ("b", "c"), ("c", " b"), ("", "")]).hasCycle "" = true := by
  decide +kernel

end Table

end Alias

end LineShell
