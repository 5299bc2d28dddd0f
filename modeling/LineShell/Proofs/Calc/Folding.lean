import LineShell.Proofs.Calc.Grouping
import LineShell.Proofs.Calc.Reading
import Mathlib.Data.List.Forall2

/-!
# Folding a chain and evaluating its tree

The fold of a chain and the tree of a chain are made by the same three passes, over values and over
trees. So after each pass the numbers of the folded chain are the values of the trees of the row
(`Row.HasValues`), as long as no application fails. Where one does, the pass ends with its failure,
while the grouping goes on: the row keeps the failures of the tiers that are grouped already
(`failures_joinLinks_of_ne`), and all of them were without a failure.

**Main statement** (`value_iff_of_isExpressionOf`): for every token list that spells a chain there is
one tree that is grouped by precedence and reads as the chain; the chain has the value of that tree,
and if there is none, it ends with the failure that comes first in the tree, by tier and then from
left to right.
-/

namespace LineShell

namespace Calc

/-! ### Computations one behind the other -/

/-- Both of two computations come to a value when they do so together. -/
theorem exists_of_bind_eq_ok {ε α β : Type} {x : Except ε α} {f : α → Except ε β} {b : β}
    (h : x.bind f = .ok b) : ∃ a, x = .ok a ∧ f a = .ok b := by
  cases x with
  | error e => cases h
  | ok a => exact ⟨a, rfl, h⟩

/-- One of two computations fails when they do so together, and the first one's failure counts. -/
theorem of_bind_eq_error {ε α β : Type} {x : Except ε α} {f : α → Except ε β} {e : ε}
    (h : x.bind f = .error e) : x = .error e ∨ ∃ a, x = .ok a ∧ f a = .error e := by
  cases x with
  | error e' => cases h; exact .inl rfl
  | ok a => exact .inr ⟨a, rfl, h⟩

/-- Behind a value the second computation is all that is left. -/
theorem bind_of_eq_ok {ε α β : Type} {x : Except ε α} {a : α} (h : x = .ok a) (f : α → Except ε β) :
    x.bind f = f a := by
  rw [h]
  rfl

/-- Behind a failure there is nothing. -/
theorem bind_of_eq_error {ε α β : Type} {x : Except ε α} {e : ε} (h : x = .error e)
    (f : α → Except ε β) : x.bind f = .error e := by
  rw [h]
  rfl

namespace Tree

/-! ### Failures of a tree -/

/-- An application that comes to a value does not fail. -/
theorem failureOf_of_ok {o : Operator} {a b v : Decimal} (h : o.apply a b = .ok v) :
    failureOf o (some a) (some b) = [] := by
  simp only [failureOf, h]

/-- An application that comes to no value fails once. -/
theorem failureOf_of_error {o : Operator} {a b : Decimal} {f : Failure}
    (h : o.apply a b = .error f) : failureOf o (some a) (some b) = [f] := by
  simp only [failureOf, h]

/-- An application has a value when it comes to one on the values of its operands. -/
theorem value?_node_of_ok {o : Operator} {l r : Tree} {a b v : Decimal} (hl : l.value? = some a)
    (hr : r.value? = some b) (h : o.apply a b = .ok v) : (node o l r).value? = some v := by
  rw [value?_node, hl, hr, Option.bind_some, Option.bind_some, h]
  rfl

/-- The operands of an application that has a value have values themselves. -/
theorem exists_of_value?_node {o : Operator} {l r : Tree} {v : Decimal}
    (h : (node o l r).value? = some v) :
    ∃ a b, l.value? = some a ∧ r.value? = some b ∧ o.apply a b = .ok v := by
  rw [value?_node, Option.bind_eq_some_iff] at h
  obtain ⟨a, ha, h⟩ := h
  rw [Option.bind_eq_some_iff] at h
  obtain ⟨b, hb, h⟩ := h
  refine ⟨a, b, ha, hb, ?_⟩
  cases happly : o.apply a b with
  | error f => rw [happly] at h; cases h
  | ok u => rw [happly] at h; cases h; rfl

/-- Nothing fails in a tree that has a value. -/
theorem failures_eq_nil {x : Tree} {v : Decimal} (h : x.value? = some v) (t : Tier) :
    x.failures t = [] := by
  induction x generalizing v with
  | number d => rfl
  | node o l r ihl ihr =>
      obtain ⟨a, b, ha, hb, happly⟩ := exists_of_value?_node h
      rw [failures, ihl ha, ihr hb, ha, hb, failureOf_of_ok happly]
      simp

/-- Something fails in a tree without a value. -/
theorem exists_failures_ne_nil {x : Tree} (h : x.value? = none) : ∃ t, x.failures t ≠ [] := by
  induction x with
  | number d => cases h
  | node o l r ihl ihr =>
      cases hl : l.value? with
      | none =>
          obtain ⟨t, ht⟩ := ihl hl
          refine ⟨t, fun h0 => ht ?_⟩
          rw [failures, List.append_assoc] at h0
          exact List.append_eq_nil_iff.mp h0 |>.1
      | some a =>
          cases hr : r.value? with
          | none =>
              obtain ⟨t, ht⟩ := ihr hr
              exact ⟨t, fun h0 => ht (List.append_eq_nil_iff.mp h0).2⟩
          | some b =>
              cases happly : o.apply a b with
              | ok v => rw [value?_node_of_ok hl hr happly] at h; cases h
              | error f =>
                  refine ⟨o.tier, ?_⟩
                  rw [failures, if_pos rfl, hl, hr, failureOf_of_error happly]
                  simp

/-- A tree has a value unless something fails in it. -/
theorem firstFailure?_eq_none_iff {x : Tree} : x.firstFailure? = none ↔ ∃ v, x.value? = some v := by
  constructor
  · intro h
    cases hv : x.value? with
    | some v => exact ⟨v, rfl⟩
    | none =>
        obtain ⟨t, ht⟩ := exists_failures_ne_nil hv
        rw [firstFailure?, List.head?_eq_none_iff] at h
        simp only [List.append_eq_nil_iff] at h
        cases t with
        | powers => exact absurd h.1.1 ht
        | products => exact absurd h.1.2 ht
        | sums => exact absurd h.2 ht
  · rintro ⟨v, hv⟩
    simp [firstFailure?, failures_eq_nil hv]

end Tree

/-! ### Rows with values -/

/-- The operators of a row with the values of the trees behind them. -/
def IsLinkValue (p : Operator × Tree) (q : Operator × Decimal) : Prop :=
  p.1 = q.1 ∧ p.2.value? = some q.2

namespace Row

/-- Whether the trees of a row have the numbers of a chain as their values, and stand between the
same operators. -/
structure HasValues (w : Row) (c : Chain) : Prop where
  /-- The value of the first tree. -/
  first : w.first.value? = some c.first
  /-- The values of the others, with the operators before them. -/
  rest : List.Forall₂ IsLinkValue w.rest c.rest

/-- The failures of the applications of one tier, from left to right. -/
def failures (t : Tier) (w : Row) : List Failure :=
  w.first.failures t ++ w.rest.flatMap fun p => p.2.failures t

/-- A chain no tier of which is grouped has its own numbers as values. -/
theorem hasValues_ofChain (c : Chain) : (ofChain c).HasValues c := by
  refine ⟨rfl, ?_⟩
  rw [ofChain, List.forall₂_map_left_iff, List.forall₂_same]
  intro p _
  exact ⟨rfl, rfl⟩

/-- Nothing fails in a row whose trees have values. -/
theorem HasValues.failures_eq_nil {w : Row} {c : Chain} (h : w.HasValues c) (t : Tier) :
    w.failures t = [] := by
  rw [failures, Tree.failures_eq_nil h.first, List.nil_append, List.flatMap_eq_nil_iff]
  intro p hp
  obtain ⟨n, hn, rfl⟩ := List.mem_iff_getElem.mp hp
  have hvalue := h.rest.get hn (h.rest.length_eq ▸ hn)
  exact Tree.failures_eq_nil hvalue.2 t

end Row

/-! ### Failures and grouping -/

/-- Grouping a tier does not touch the failures of the others. -/
theorem failures_joinLinks_of_ne {s t : Tier} (hst : s ≠ t) (x : Tree)
    (links : List (Operator × Tree)) :
    (joinLinks t x links).failures s = (Row.mk x links).failures s := by
  induction links generalizing x with
  | nil => rfl
  | cons p links ih =>
      obtain ⟨o, y⟩ := p
      by_cases h : o.tier = t
      · have hs : o.tier ≠ s := fun hs => hst (hs.symm.trans h)
        rw [joinLinks_cons_of_eq h, ih]
        simp [Row.failures, Tree.failures, hs]
      · rw [joinLinks_cons_of_ne h]
        have hy := ih y
        simp only [Row.failures] at hy
        simp [Row.failures, hy]

/-- The failures of the tree that is being built on come first. -/
theorem exists_failures_joinLinks (t : Tier) (x : Tree) (links : List (Operator × Tree)) :
    ∃ fs, (joinLinks t x links).failures t = x.failures t ++ fs := by
  induction links generalizing x with
  | nil => exact ⟨_, rfl⟩
  | cons p links ih =>
      obtain ⟨o, y⟩ := p
      by_cases h : o.tier = t
      · obtain ⟨fs, hfs⟩ := ih (.node o x y)
        rw [joinLinks_cons_of_eq h, hfs, Tree.failures, List.append_assoc, List.append_assoc]
        exact ⟨_, rfl⟩
      · rw [joinLinks_cons_of_ne h]
        exact ⟨_, rfl⟩

/-! ### One pass -/

/-- An operator of the tier is applied to what stands beside it. -/
theorem foldLinks_cons_of_eq {t : Tier} {o : Operator} (h : o.tier = t) (x y : Decimal)
    (links : List (Operator × Decimal)) :
    foldLinks t x ((o, y) :: links) = (o.apply x y).bind fun v => foldLinks t v links := by
  rw [foldLinks, if_pos h]
  rfl

/-- Any other operator is kept. -/
theorem foldLinks_cons_of_ne {t : Tier} {o : Operator} (h : o.tier ≠ t) (x y : Decimal)
    (links : List (Operator × Decimal)) :
    foldLinks t x ((o, y) :: links) =
      (foldLinks t y links).bind fun c => .ok ⟨x, (o, c.first) :: c.rest⟩ := by
  rw [foldLinks, if_neg h]
  rfl

/-- A pass that comes to an end leaves the values of the trees that grouping leaves. -/
theorem hasValues_joinLinks {t : Tier} {x : Tree} {v : Decimal} {links : List (Operator × Tree)}
    {numbers : List (Operator × Decimal)} {c : Chain} (hx : x.value? = some v)
    (hlinks : List.Forall₂ IsLinkValue links numbers) (h : foldLinks t v numbers = .ok c) :
    (joinLinks t x links).HasValues c := by
  induction hlinks generalizing x v c with
  | nil => cases h; exact ⟨hx, .nil⟩
  | @cons p q links numbers hpq hlinks ih =>
      obtain ⟨o, y⟩ := p
      obtain ⟨o', d⟩ := q
      obtain ⟨rfl, hy⟩ := hpq
      by_cases ho : o.tier = t
      · rw [foldLinks_cons_of_eq ho] at h
        rw [joinLinks_cons_of_eq ho]
        obtain ⟨u, happly, h⟩ := exists_of_bind_eq_ok h
        exact ih (Tree.value?_node_of_ok hx hy happly) h
      · rw [foldLinks_cons_of_ne ho] at h
        rw [joinLinks_cons_of_ne ho]
        obtain ⟨e, hfold, h⟩ := exists_of_bind_eq_ok h
        cases h
        have hjoin := ih hy hfold
        exact ⟨hx, .cons ⟨rfl, hjoin.first⟩ hjoin.rest⟩

/-- A pass that is broken off ends with the first failure of its tier. -/
theorem head?_failures_joinLinks {t : Tier} {x : Tree} {v : Decimal}
    {links : List (Operator × Tree)} {numbers : List (Operator × Decimal)} {f : Failure}
    (hx : x.value? = some v) (hlinks : List.Forall₂ IsLinkValue links numbers)
    (h : foldLinks t v numbers = .error f) :
    ((joinLinks t x links).failures t).head? = some f := by
  induction hlinks generalizing x v with
  | nil => cases h
  | @cons p q links numbers hpq hlinks ih =>
      obtain ⟨o, y⟩ := p
      obtain ⟨o', d⟩ := q
      obtain ⟨rfl, hy⟩ := hpq
      by_cases ho : o.tier = t
      · rw [foldLinks_cons_of_eq ho] at h
        rw [joinLinks_cons_of_eq ho]
        rcases of_bind_eq_error h with happly | ⟨u, happly, h⟩
        · -- the failure is that of the tree that is being built on, whose left operand has none
          obtain ⟨fs, hfs⟩ := exists_failures_joinLinks t (.node o x y) links
          rw [hfs, Tree.failures, if_pos ho, hx, hy, Tree.failureOf_of_error happly,
            Tree.failures_eq_nil hx]
          rfl
        · exact ih (Tree.value?_node_of_ok hx hy happly) h
      · rw [foldLinks_cons_of_ne ho] at h
        rw [joinLinks_cons_of_ne ho]
        rcases of_bind_eq_error h with hfold | ⟨e, -, h⟩
        · have hjoin := ih hy hfold
          rw [Row.failures, Tree.failures_eq_nil hx, List.nil_append, List.flatMap_cons]
          exact hjoin
        · cases h

namespace Row

/-- A pass that comes to an end leaves the values of the trees that grouping leaves. -/
theorem HasValues.joinTier {t : Tier} {w : Row} {c d : Chain} (hw : w.HasValues c)
    (h : c.foldTier t = .ok d) : (w.joinTier t).HasValues d :=
  hasValues_joinLinks hw.first hw.rest h

/-- A pass that is broken off ends with the first failure of its tier. -/
theorem HasValues.head?_failures {t : Tier} {w : Row} {c : Chain} {f : Failure} (hw : w.HasValues c)
    (h : c.foldTier t = .error f) : ((w.joinTier t).failures t).head? = some f :=
  head?_failures_joinLinks hw.first hw.rest h

/-- Grouping a tier does not touch the failures of the others. -/
theorem failures_joinTier_of_ne {s t : Tier} (hst : s ≠ t) (w : Row) :
    (w.joinTier t).failures s = w.failures s :=
  failures_joinLinks_of_ne hst w.first w.rest

end Row

/-! ### All passes -/

namespace Tree

/-- What fails in the tree of a chain is what fails in the row that the last tier leaves. -/
theorem failures_ofChain (t : Tier) (c : Chain) : (ofChain c).failures t = c.sumRow.failures t := by
  rw [Row.failures, c.isGrouped_sumRow.rest_eq_nil, List.flatMap_nil, List.append_nil]
  rfl

/-- Powers are grouped first, and their failures stay. -/
theorem failures_powers_ofChain (c : Chain) :
    (ofChain c).failures .powers = c.powerRow.failures .powers := by
  rw [failures_ofChain, Chain.sumRow, Row.failures_joinTier_of_ne (by decide), Chain.productRow,
    Row.failures_joinTier_of_ne (by decide)]

/-- Products are grouped next, and their failures stay. -/
theorem failures_products_ofChain (c : Chain) :
    (ofChain c).failures .products = c.productRow.failures .products := by
  rw [failures_ofChain, Chain.sumRow, Row.failures_joinTier_of_ne (by decide)]

end Tree

namespace Chain

/-- A fold is three passes, one behind the other. -/
theorem value_eq_bind (c : Chain) :
    c.value = (c.foldTier .powers).bind fun c₁ => (c₁.foldTier .products).bind fun c₂ =>
      (c₂.foldTier .sums).bind fun c₃ => .ok c₃.first := rfl

/-- **A chain that has a value has that of its tree.** -/
theorem value?_ofChain_of_value {c : Chain} {v : Decimal} (h : c.value = .ok v) :
    (Tree.ofChain c).value? = some v := by
  rw [value_eq_bind] at h
  obtain ⟨c₁, h₁, h⟩ := exists_of_bind_eq_ok h
  obtain ⟨c₂, h₂, h⟩ := exists_of_bind_eq_ok h
  obtain ⟨c₃, h₃, h⟩ := exists_of_bind_eq_ok h
  cases h
  have hpowers : c.powerRow.HasValues c₁ := (Row.hasValues_ofChain c).joinTier h₁
  have hproducts : c.productRow.HasValues c₂ := hpowers.joinTier h₂
  have hsums : c.sumRow.HasValues c₃ := hproducts.joinTier h₃
  exact hsums.first

/-- **A chain without a value ends with the first failure of its tree.** -/
theorem firstFailure?_ofChain_of_value {c : Chain} {f : Failure} (h : c.value = .error f) :
    (Tree.ofChain c).firstFailure? = some f := by
  rw [value_eq_bind] at h
  have hw := Row.hasValues_ofChain c
  rw [Tree.firstFailure?, Tree.failures_powers_ofChain, Tree.failures_products_ofChain]
  rcases of_bind_eq_error h with h₁ | ⟨c₁, h₁, h⟩
  · rw [List.append_assoc, List.head?_append, powerRow, hw.head?_failures h₁]
    rfl
  have hpowers : c.powerRow.HasValues c₁ := hw.joinTier h₁
  rw [hpowers.failures_eq_nil, List.nil_append]
  rcases of_bind_eq_error h with h₂ | ⟨c₂, h₂, h⟩
  · rw [List.head?_append, productRow, hpowers.head?_failures h₂]
    rfl
  have hproducts : c.productRow.HasValues c₂ := hpowers.joinTier h₂
  rw [hproducts.failures_eq_nil, List.nil_append, Tree.failures_ofChain]
  rcases of_bind_eq_error h with h₃ | ⟨c₃, -, h⟩
  · exact hproducts.head?_failures h₃
  · cases h

/-- A chain and its tree have the same value, if either has one. -/
theorem value_eq_ok_iff {c : Chain} {v : Decimal} :
    c.value = .ok v ↔ (Tree.ofChain c).value? = some v := by
  refine ⟨value?_ofChain_of_value, fun h => ?_⟩
  cases hc : c.value with
  | ok u =>
      have hu := value?_ofChain_of_value hc
      rw [h] at hu
      cases hu
      rfl
  | error f =>
      have hnone := Tree.firstFailure?_eq_none_iff.mpr ⟨v, h⟩
      rw [firstFailure?_ofChain_of_value hc] at hnone
      cases hnone

/-- A chain ends with a failure exactly when that comes first in its tree. -/
theorem value_eq_error_iff {c : Chain} {f : Failure} :
    c.value = .error f ↔ (Tree.ofChain c).firstFailure? = some f := by
  refine ⟨firstFailure?_ofChain_of_value, fun h => ?_⟩
  cases hc : c.value with
  | ok v =>
      have hnone := Tree.firstFailure?_eq_none_iff.mpr ⟨v, value?_ofChain_of_value hc⟩
      rw [h] at hnone
      cases hnone
  | error g =>
      have hg := firstFailure?_ofChain_of_value hc
      rw [h] at hg
      cases hg
      rfl

end Chain

/-! ### Token lists -/

namespace Tree

/-- Whether a tree is the expression that tokens spell: it stands over them and is grouped by
precedence. -/
structure IsExpressionOf (x : Tree) (ts : List Token) : Prop where
  /-- The tokens are its numerals and operators from left to right. -/
  reads : x.Reads ts
  /-- Tighter operators are grouped first, and those of one tier from the left. -/
  grouped : x.IsGrouped

/-- The tree of a chain is the expression that the tokens of the chain spell. -/
theorem isExpressionOf_ofChain {ts : List Token} {c : Chain} (h : Chain.ofTokens ts = .ok c) :
    (ofChain c).IsExpressionOf ts := by
  refine ⟨reads_iff_ofTokens_eq_ok.mpr ?_, isGrouped_ofChain c⟩
  rw [toChain_ofChain, h]

/-- Tokens that spell a chain spell no other expression than the tree of the chain. -/
theorem IsExpressionOf.eq_ofChain {x : Tree} {ts : List Token} {c : Chain}
    (hx : x.IsExpressionOf ts) (h : Chain.ofTokens ts = .ok c) : x = ofChain c := by
  have hc := reads_iff_ofTokens_eq_ok.mp hx.reads
  rw [h, Except.ok.injEq] at hc
  exact hx.grouped.eq_of_toChain_eq (isGrouped_ofChain c) (by rw [toChain_ofChain, hc])

end Tree

/-- **Folding is evaluating the expression.** Tokens that spell a chain spell one expression. The
chain has a value exactly when the expression has it, and it ends with a failure exactly when an
application in the expression fails; the failure is that of the application that comes first by tier
and then from left to right. -/
theorem value_iff_of_isExpressionOf {ts : List Token} {c : Chain} (h : Chain.ofTokens ts = .ok c) :
    (∃! x : Tree, x.IsExpressionOf ts) ∧
      ∀ x : Tree, x.IsExpressionOf ts →
        (∀ v, c.value = .ok v ↔ x.value? = some v) ∧
        ((∃ f, c.value = .error f) ↔ ∃ t, x.failures t ≠ []) ∧
        ∀ f, c.value = .error f ↔ x.firstFailure? = some f := by
  refine ⟨⟨Tree.ofChain c, Tree.isExpressionOf_ofChain h, fun y hy => hy.eq_ofChain h⟩, ?_⟩
  intro x hx
  obtain rfl := hx.eq_ofChain h
  refine ⟨fun v => Chain.value_eq_ok_iff, ?_, fun f => Chain.value_eq_error_iff⟩
  constructor
  · rintro ⟨f, hf⟩
    refine Tree.exists_failures_ne_nil ?_
    rw [Chain.value_eq_error_iff] at hf
    cases hv : (Tree.ofChain c).value? with
    | none => rfl
    | some v => rw [Tree.firstFailure?_eq_none_iff.mpr ⟨v, hv⟩] at hf; cases hf
  · rintro ⟨t, ht⟩
    cases hv : c.value with
    | error f => exact ⟨f, rfl⟩
    | ok v => exact absurd (Tree.failures_eq_nil (Chain.value_eq_ok_iff.mp hv) t) ht

/-- The tokens of `6 / 0 + 2 ** 1001`. -/
def quotientAndPower : List Token :=
  [.number ⟨none, ['6']⟩, .operator .div, .number ⟨none, ['0']⟩, .operator .add,
    .number ⟨none, ['2']⟩, .operator .pow, .number ⟨none, ['1', '0', '0', '1']⟩]

/-- In `6 / 0 + 2 ** 1001` two applications fail. The power fails first, though it stands on the
right. -/
theorem firstFailure?_of_quotientAndPower :
    (∃ c, Chain.ofTokens quotientAndPower = .ok c) ∧
      ∃ x : Tree, x.IsExpressionOf quotientAndPower ∧ x.value? = none ∧
        x.firstFailure? = some (.rejected .exponentTooLarge) := by
  have hread : Chain.ofTokens quotientAndPower =
      .ok ⟨.ofInt 6, [(.div, .ofInt 0), (.add, .ofInt 2), (.pow, .ofInt 1001)]⟩ := rfl
  have hfold : Chain.value ⟨.ofInt 6, [(.div, .ofInt 0), (.add, .ofInt 2), (.pow, .ofInt 1001)]⟩ =
      .error (.rejected .exponentTooLarge) := by decide
  obtain ⟨⟨x, hx, -⟩, h⟩ := value_iff_of_isExpressionOf hread
  obtain ⟨hvalue, -, hfailure⟩ := h x hx
  refine ⟨⟨_, hread⟩, x, hx, ?_, (hfailure _).mp hfold⟩
  cases hx : x.value? with
  | none => rfl
  | some v => cases hfold.symm.trans ((hvalue v).mpr hx)

end Calc

end LineShell
