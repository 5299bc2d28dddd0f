import LineShell.Proofs.Calc.Application
import LineShell.Proofs.Decimal.Value

/-!
# The operands of an expression

A numeral of an expression is a whole number, and no operator makes a positive exponent of decimals that
have none. So all that the operators of an expression are applied to are decimals without positive
exponents, whatever comes before.

**Main statement** (`exponent_nonpos_of_mem_applications`): this for every application of an expression.
-/

namespace LineShell

namespace Calc

open Decimal

/-! ### Steps -/

theorem exponent_eq_of_quotient_eq_ok {a b r : Decimal} (h : quotient a b = .ok r) :
    r.exponent = -quotientPlaces := by
  rw [quotient] at h
  obtain ⟨-, -, h⟩ := exists_of_bind_eq_ok h
  obtain ⟨-, -, h⟩ := exists_of_bind_eq_ok h
  cases hb : b.isZero with
  | true =>
      rw [hb] at h
      cases h
  | false =>
      rw [hb] at h
      obtain ⟨-, -, h⟩ := exists_of_bind_eq_ok h
      cases h
      rfl

theorem exponent_nonpos_of_naturalPower {a r : Decimal} {n : Nat} (ha : a.exponent ≤ 0)
    (h : naturalPower a n = .ok r) : r.exponent ≤ 0 := by
  by_cases hdigits : maxPowerDigits < a.powerDigits n
  · rw [naturalPower_of_lt hdigits] at h
    cases h
  have hshort : a.powerDigits n ≤ maxPowerDigits := Nat.le_of_not_lt hdigits
  cases hzero : a.isZero with
  | true =>
      rw [naturalPower_of_isZero hzero hshort] at h
      cases h
      exact le_refl 0
  | false =>
      rw [naturalPower_of_le hzero hshort (leadingExponent_pow_le ha hshort)] at h
      cases h
      exact exponent_placed_nonpos (exponent_pow_nonpos ha n)

/-- The exponent of a power does not matter here: the power is one, a natural power or a quotient. -/
theorem exponent_nonpos_of_power {a b r : Decimal} (ha : a.exponent ≤ 0) (h : power a b = .ok r) :
    r.exponent ≤ 0 := by
  have hplaces : (-quotientPlaces : Int) ≤ 0 := by decide
  rw [power] at h
  obtain ⟨m, -, h⟩ := exists_of_bind_eq_ok h
  split at h
  · cases h
    decide
  · exact exponent_nonpos_of_naturalPower ha h
  · split at h
    · cases h
    · obtain ⟨p, -, h⟩ := exists_of_bind_eq_ok h
      rw [exponent_eq_of_quotient_eq_ok h]
      exact hplaces

/-- What is worked out with enough digits has no positive exponent, if the exact result has none. -/
theorem exponent_nonpos_of_mapError {x : Except Signal Decimal} {k : Nat} {d r : Decimal}
    (hx : k ≤ maxPrecision → x = .ok (d.placed k)) (hmany : maxPrecision < k → x = .error .precision)
    (hd : d.exponent ≤ 0) (h : x.mapError Failure.arithmetic = .ok r) : r.exponent ≤ 0 := by
  rcases Nat.lt_or_ge maxPrecision k with hk | hk
  · rw [hmany hk] at h
    cases h
  · rw [hx hk] at h
    cases h
    exact exponent_placed_nonpos hd

/-- **No operator makes a positive exponent** of decimals that have none. -/
theorem exponent_nonpos_of_apply {o : Operator} {a b r : Decimal} (ha : a.exponent ≤ 0)
    (hb : b.exponent ≤ 0) (h : o.apply a b = .ok r) : r.exponent ≤ 0 := by
  have hcommon : commonExponent a b ≤ 0 := le_trans (commonExponent_le_left a b) ha
  cases o with
  | add =>
      exact exponent_nonpos_of_mapError (sum_of_exponent_nonpos ha) withPrecision_of_lt hcommon h
  | sub =>
      exact exponent_nonpos_of_mapError (difference_of_exponent_nonpos ha) withPrecision_of_lt hcommon h
  | mul =>
      exact exponent_nonpos_of_mapError (product_of_exponent_nonpos ha hb) withPrecision_of_lt
        (add_nonpos ha hb) h
  | div =>
      rw [Operator.apply] at h
      split at h
      · cases h
      · rw [exponent_eq_of_quotient_eq_ok h]
        decide
  | mod =>
      rw [Operator.apply] at h
      split at h
      · cases h
      · next hb0 =>
        exact exponent_nonpos_of_mapError (remainder_of_exponent_nonpos ha (by simpa using hb0))
          remainder_of_lt hcommon h
  | pow => exact exponent_nonpos_of_power ha h

/-! ### Expressions -/

namespace Tree

theorem mem_values_node {o : Operator} {l r : Tree} {d : Decimal} :
    d ∈ (node o l r).toChain.values ↔ d ∈ l.toChain.values ∨ d ∈ r.toChain.values := by
  simp [toChain_node, Chain.values, or_assoc]

/-- What an expression of numbers without positive exponents comes to has none. -/
theorem exponent_nonpos_of_value? {x : Tree} (hx : ∀ d ∈ x.toChain.values, d.exponent ≤ 0) {v : Decimal}
    (h : x.value? = some v) : v.exponent ≤ 0 := by
  induction x generalizing v with
  | number d =>
      cases h
      exact hx _ List.mem_cons_self
  | node o l r ihl ihr =>
      obtain ⟨a, b, ha, hb, happly⟩ := exists_of_value?_node h
      exact exponent_nonpos_of_apply (ihl (fun d hd => hx d (mem_values_node.mpr (.inl hd))) ha)
        (ihr (fun d hd => hx d (mem_values_node.mpr (.inr hd))) hb) happly

theorem exponent_nonpos_of_mem_applicationsOf {x : Tree} (hx : ∀ d ∈ x.toChain.values, d.exponent ≤ 0)
    {t : Tier} {p : Application} (hp : p ∈ x.applicationsOf t) :
    p.left.exponent ≤ 0 ∧ p.right.exponent ≤ 0 := by
  induction x with
  | number d => cases hp
  | node o l r ihl ihr =>
      have hl : ∀ d ∈ l.toChain.values, d.exponent ≤ 0 := fun d hd => hx d (mem_values_node.mpr (.inl hd))
      have hr : ∀ d ∈ r.toChain.values, d.exponent ≤ 0 := fun d hd => hx d (mem_values_node.mpr (.inr hd))
      rw [applicationsOf, List.mem_append, List.mem_append] at hp
      rcases hp with (hp | hp) | hp
      · exact ihl hl hp
      · split at hp
        · obtain ⟨a, b, ha, hb, rfl⟩ := mem_applicationOf_iff.mp hp
          exact ⟨exponent_nonpos_of_value? hl ha, exponent_nonpos_of_value? hr hb⟩
        · cases hp
      · exact ihr hr hp

end Tree

/-- **The operands of an expression.** Whatever the operators of an expression are applied to, in whatever
order, has no positive exponent. -/
theorem exponent_nonpos_of_mem_applications {text : String} {c : Chain} (hc : chainOf text = .ok c)
    {p : Application} (hp : p ∈ (Tree.ofChain c).applications) :
    p.left.exponent ≤ 0 ∧ p.right.exponent ≤ 0 := by
  have hvalues : ∀ d ∈ (Tree.ofChain c).toChain.values, d.exponent ≤ 0 := by
    intro d hd
    rw [Tree.toChain_ofChain] at hd
    obtain ⟨m, rfl, -⟩ := isWritten_of_mem_values hc d hd
    exact le_refl 0
  have htier : ∀ t, p ∈ (Tree.ofChain c).applicationsOf t → p.left.exponent ≤ 0 ∧ p.right.exponent ≤ 0 :=
    fun _ => Tree.exponent_nonpos_of_mem_applicationsOf hvalues
  rw [Tree.applications, List.mem_append, List.mem_append] at hp
  exact hp.elim (fun hp => hp.elim (htier _) (htier _)) (htier _)

end Calc

end LineShell
