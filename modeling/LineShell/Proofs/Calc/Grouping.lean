import LineShell.Calc.Tree

/-!
# The tree of a chain

A chain is grouped the way it is folded: tier by tier, and from left to right within a tier, but with
trees in the place of values. What stands between two tiers is a `Row`, trees joined by the operators
that are still to come; behind the last tier one tree is left, `Tree.ofChain`.

**Main statement** (`IsGrouped.eq_of_toChain_eq`): two trees that are grouped by precedence and read
the same from left to right are the same. The operator at the root is the last of the loosest ones,
and so it stands at one place of the chain only (`eq_of_last_minimum`). With `isGrouped_ofChain` and
`toChain_ofChain`, `Tree.ofChain` is the one tree of its chain.
-/

namespace LineShell

namespace Calc

/-! ### Ranks -/

/-- A tier is known by its rank. -/
theorem Tier.eq_of_rank_eq {s t : Tier} (h : s.rank = t.rank) : s = t := by
  cases s <;> cases t <;> cases h <;> rfl

/-- The last element at which a function on a list is least stands at one place only. -/
theorem eq_of_last_minimum {α : Type} (f : α → Nat) {as bs cs ds : List α} {a c : α}
    (h : as ++ a :: bs = cs ++ c :: ds) (has : ∀ x ∈ as, f a ≤ f x) (hbs : ∀ x ∈ bs, f a < f x)
    (hcs : ∀ x ∈ cs, f c ≤ f x) (hds : ∀ x ∈ ds, f c < f x) : as = cs ∧ a = c ∧ bs = ds := by
  rcases List.append_eq_append_iff.mp h with ⟨es, rfl, hes⟩ | ⟨es, rfl, hes⟩
  · cases es with
    | nil =>
        rw [List.nil_append] at hes
        cases hes
        simp
    | cons e es =>
        cases hes
        -- `a` is among what stands before `c`, and `c` among what stands behind `a`
        have hca : f c ≤ f a := hcs a (by simp)
        have hac : f a < f c := hbs c (by simp)
        omega
  · cases es with
    | nil =>
        rw [List.nil_append] at hes
        cases hes
        simp
    | cons e es =>
        cases hes
        have hac : f a ≤ f c := has c (by simp)
        have hca : f c < f a := hds a (by simp)
        omega

namespace Tree

/-! ### One tree at most -/

/-- A tree that binds so tightly binds any less tightly as well. -/
theorem BindsAtLeast.mono {x : Tree} {j k : Nat} (h : x.BindsAtLeast k) (hjk : j ≤ k) :
    x.BindsAtLeast j := by
  cases x with
  | number d => trivial
  | node o l r => exact Nat.le_trans hjk h

/-- No operator of a grouped tree is looser than the tree. -/
theorem IsGrouped.rank_le_of_mem {x : Tree} (hx : x.IsGrouped) {k : Nat} (hk : x.BindsAtLeast k) :
    ∀ p ∈ x.toChain.rest, k ≤ p.1.tier.rank := by
  induction hx generalizing k with
  | number d => intro p hp; cases hp
  | @node o l r hl hr atLeft atRight ihl ihr =>
      intro p hp
      have hok : k ≤ o.tier.rank := hk
      rw [toChain_node] at hp
      rcases List.mem_append.mp hp with hp | hp
      · exact Nat.le_trans hok (ihl atLeft p hp)
      · rcases List.mem_cons.mp hp with rfl | hp
        · exact hok
        · exact Nat.le_trans hok (Nat.le_of_succ_le (ihr atRight p hp))

/-- **Two grouped trees that read the same from left to right are the same.** -/
theorem IsGrouped.eq_of_toChain_eq {x y : Tree} (hx : x.IsGrouped) (hy : y.IsGrouped)
    (h : x.toChain = y.toChain) : x = y := by
  induction hx generalizing y with
  | number d =>
      cases hy with
      | number e => cases h; rfl
      | node _ _ _ _ =>
          rw [toChain_node, toChain, Chain.mk.injEq] at h
          simp at h
  | @node o l r hl hr atLeft atRight ihl ihr =>
      cases hy with
      | number e =>
          rw [toChain_node, toChain, Chain.mk.injEq] at h
          simp at h
      | @node o' l' r' hl' hr' atLeft' atRight' =>
          rw [toChain_node, toChain_node, Chain.mk.injEq] at h
          obtain ⟨hfirst, hrest⟩ := h
          obtain ⟨hls, ho, hrs⟩ := eq_of_last_minimum (fun p => p.1.tier.rank) hrest
            (hl.rank_le_of_mem atLeft) (hr.rank_le_of_mem atRight)
            (hl'.rank_le_of_mem atLeft') (hr'.rank_le_of_mem atRight')
          rw [Prod.mk.injEq] at ho
          have hleft : l = l' := ihl hl' (by
            rw [Chain.mk.injEq]
            exact ⟨hfirst, hls⟩)
          have hright : r = r' := ihr hr' (by
            rw [Chain.mk.injEq]
            exact ⟨ho.2, hrs⟩)
          rw [ho.1, hleft, hright]

end Tree

/-! ### Rows -/

/-- Trees joined by operators: a chain some tiers of which are grouped. -/
structure Row where
  /-- The leftmost tree. -/
  first : Tree
  /-- The operators that are not grouped yet, with their right operands, from left to right. -/
  rest : List (Operator × Tree)

/-- One tier grouped from left to right, with the tree that is being built on at hand. -/
def joinLinks (t : Tier) : Tree → List (Operator × Tree) → Row
  | x, [] => ⟨x, []⟩
  | x, (o, y) :: links =>
      if o.tier = t then joinLinks t (.node o x y) links
      else ⟨x, (o, (joinLinks t y links).first) :: (joinLinks t y links).rest⟩

/-- An operator of the tier makes one tree of the two beside it. -/
theorem joinLinks_cons_of_eq {t : Tier} {o : Operator} (h : o.tier = t) (x y : Tree)
    (links : List (Operator × Tree)) :
    joinLinks t x ((o, y) :: links) = joinLinks t (.node o x y) links := by
  rw [joinLinks, if_pos h]

/-- Any other operator is left where it stands. -/
theorem joinLinks_cons_of_ne {t : Tier} {o : Operator} (h : o.tier ≠ t) (x y : Tree)
    (links : List (Operator × Tree)) :
    joinLinks t x ((o, y) :: links) =
      ⟨x, (o, (joinLinks t y links).first) :: (joinLinks t y links).rest⟩ := by
  rw [joinLinks, if_neg h]

namespace Row

/-- A chain no tier of which is grouped. -/
def ofChain (c : Chain) : Row := ⟨.number c.first, c.rest.map fun p => (p.1, .number p.2)⟩

/-- The row with one tier grouped. -/
def joinTier (t : Tier) (w : Row) : Row := joinLinks t w.first w.rest

/-- The operators and numbers behind the first tree, from left to right. -/
def links (w : Row) : List (Operator × Decimal) :=
  w.rest.flatMap fun p => (p.1, p.2.toChain.first) :: p.2.toChain.rest

/-- The chain that a row is when it is read from left to right. -/
def toChain (w : Row) : Chain := ⟨w.first.toChain.first, w.first.toChain.rest ++ w.links⟩

/-- Whether the trees of a row are grouped and bind at least so tightly, while the operators between
them are looser. -/
structure IsGrouped (k : Nat) (w : Row) : Prop where
  /-- The first tree is grouped. -/
  first : w.first.IsGrouped
  /-- The first tree binds tightly. -/
  atFirst : w.first.BindsAtLeast k
  /-- The other trees are grouped and bind tightly, behind looser operators. -/
  rest : ∀ p ∈ w.rest, p.1.tier.rank < k ∧ p.2.IsGrouped ∧ p.2.BindsAtLeast k

end Row

/-- Grouping a tier does not change how a row reads. -/
theorem toChain_joinLinks (t : Tier) (x : Tree) (links : List (Operator × Tree)) :
    (joinLinks t x links).toChain = (Row.mk x links).toChain := by
  induction links generalizing x with
  | nil => rfl
  | cons p links ih =>
      obtain ⟨o, y⟩ := p
      by_cases h : o.tier = t
      · rw [joinLinks_cons_of_eq h, ih]
        simp [Row.toChain, Row.links, Tree.toChain_node]
      · have hy := ih y
        rw [Row.toChain, Row.toChain, Chain.mk.injEq] at hy
        rw [joinLinks_cons_of_ne h]
        simp only [Row.toChain, Row.links, List.flatMap_cons, List.cons_append, hy.1]
        simpa [Row.links] using hy.2

/-- Grouping a tier, when all tighter ones are grouped: the first tree may bind as loosely as the
tier, since it is a left operand. -/
theorem isGrouped_joinLinks (t : Tier) {x : Tree} {links : List (Operator × Tree)}
    (hx : x.IsGrouped) (atFirst : x.BindsAtLeast t.rank)
    (hrest : ∀ p ∈ links, p.1.tier.rank < t.rank + 1 ∧ p.2.IsGrouped ∧ p.2.BindsAtLeast (t.rank + 1)) :
    (joinLinks t x links).IsGrouped t.rank := by
  induction links generalizing x with
  | nil => exact ⟨hx, atFirst, by simp [joinLinks]⟩
  | cons p links ih =>
      obtain ⟨o, y⟩ := p
      obtain ⟨hrank, hy, atRight⟩ := hrest (o, y) List.mem_cons_self
      have hlinks := fun q hq => hrest q (List.mem_cons_of_mem _ hq)
      by_cases h : o.tier = t
      · subst h
        rw [joinLinks_cons_of_eq rfl]
        exact ih (.node hx hy atFirst atRight) (Nat.le_refl _) hlinks
      · have hne : o.tier.rank ≠ t.rank := fun he => h (Tier.eq_of_rank_eq he)
        have hlt : o.tier.rank < t.rank := Nat.lt_of_le_of_ne (Nat.le_of_lt_succ hrank) hne
        have hg := ih hy (atRight.mono (Nat.le_succ _)) hlinks
        rw [joinLinks_cons_of_ne h]
        refine ⟨hx, atFirst, ?_⟩
        intro q hq
        rcases List.mem_cons.mp hq with rfl | hq
        · exact ⟨hlt, hg.first, hg.atFirst⟩
        · exact hg.rest q hq

namespace Row

/-- Grouping a tier does not change how a row reads. -/
@[simp] theorem toChain_joinTier (t : Tier) (w : Row) : (w.joinTier t).toChain = w.toChain :=
  toChain_joinLinks t w.first w.rest

/-- With one tier more grouped, the trees may bind one rank less tightly. -/
theorem IsGrouped.joinTier {t : Tier} {w : Row} (h : w.IsGrouped (t.rank + 1)) :
    (w.joinTier t).IsGrouped t.rank :=
  isGrouped_joinLinks t h.first (h.atFirst.mono (Nat.le_succ _)) h.rest

/-- Numbers are grouped, and no tier is so tight that they would not be. -/
theorem isGrouped_ofChain (c : Chain) : (ofChain c).IsGrouped (Tier.powers.rank + 1) := by
  refine ⟨.number _, trivial, ?_⟩
  intro p hp
  obtain ⟨q, -, rfl⟩ := List.mem_map.mp hp
  refine ⟨?_, .number _, trivial⟩
  cases q.1 <;> decide

/-- A chain no tier of which is grouped reads as itself. -/
theorem toChain_ofChain (c : Chain) : (ofChain c).toChain = c := by
  obtain ⟨x, links⟩ := c
  simp [toChain, ofChain, Row.links, Tree.toChain, List.flatMap_map]

/-- Nothing is left between the trees when the loosest tier is grouped. -/
theorem IsGrouped.rest_eq_nil {w : Row} (h : w.IsGrouped Tier.sums.rank) : w.rest = [] := by
  cases hw : w.rest with
  | nil => rfl
  | cons p ps =>
      have hp := (h.rest p (by rw [hw]; exact List.mem_cons_self)).1
      exact absurd hp (Nat.not_lt_zero _)

end Row

/-! ### The tree -/

namespace Chain

/-- The chain with its powers grouped. -/
def powerRow (c : Chain) : Row := (Row.ofChain c).joinTier .powers

/-- The chain with its powers and products grouped. -/
def productRow (c : Chain) : Row := c.powerRow.joinTier .products

/-- The chain with all tiers grouped. -/
def sumRow (c : Chain) : Row := c.productRow.joinTier .sums

/-- The trees of a chain with all tiers grouped are grouped by precedence. -/
theorem isGrouped_sumRow (c : Chain) : c.sumRow.IsGrouped Tier.sums.rank := by
  have hpowers : c.powerRow.IsGrouped (Tier.products.rank + 1) := (Row.isGrouped_ofChain c).joinTier
  have hproducts : c.productRow.IsGrouped (Tier.sums.rank + 1) := hpowers.joinTier
  exact hproducts.joinTier

end Chain

namespace Tree

/-- The tree of a chain: powers are grouped first, then products, then sums. -/
def ofChain (c : Chain) : Tree := c.sumRow.first

/-- The tree of a chain is grouped by precedence. -/
theorem isGrouped_ofChain (c : Chain) : (ofChain c).IsGrouped := c.isGrouped_sumRow.first

/-- The tree of a chain reads as the chain. -/
theorem toChain_ofChain (c : Chain) : (ofChain c).toChain = c := by
  have hc : c.sumRow.toChain = c := by
    simp [Chain.sumRow, Chain.productRow, Chain.powerRow, Row.toChain_ofChain]
  have hrest := c.isGrouped_sumRow.rest_eq_nil
  rw [Row.toChain, Row.links, hrest, List.flatMap_nil, List.append_nil] at hc
  exact hc

end Tree

end Calc

end LineShell
