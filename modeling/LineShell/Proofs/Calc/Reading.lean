import LineShell.Calc.Tree

/-!
# Trees over token lists

A token list spells a chain exactly when it is a numeral and, behind it, an operator and a numeral for
each link (`Chain.ofTokens_eq_ok_iff_linkTokens`).

A tree stands over the token list that its numerals and operators make from left to right
(`Tree.Reads`). A token list spells a chain exactly when a tree that reads as the chain stands over it
(`reads_iff_ofTokens_eq_ok`); so what is said of the tree of a chain is said of the tokens
themselves.
-/

namespace LineShell

namespace Calc

/-! ### Links -/

/-- Only the empty token list spells no link. -/
theorem linksOfTokens_eq_ok_nil_iff {ts : List Token} : linksOfTokens ts = .ok [] ↔ ts = [] := by
  constructor
  · intro h
    fun_cases linksOfTokens ts with
    | case1 => rfl
    | case2 n ts => cases h
    | case3 o => cases h
    | case4 o p ts => cases h
    | case5 o n ts =>
        rw [linksOfTokens] at h
        cases hts : linksOfTokens ts with
        | error e => rw [hts] at h; cases h
        | ok links => rw [hts] at h; cases h
  · rintro rfl
    rfl

/-- A link is spelled by an operator and a numeral behind it. -/
theorem linksOfTokens_eq_ok_cons_iff {ts : List Token} {o : Operator} {d : Decimal}
    {links : List (Operator × Decimal)} :
    linksOfTokens ts = .ok ((o, d) :: links) ↔
      ∃ n us, ts = .operator o :: .number n :: us ∧ n.value = d ∧ linksOfTokens us = .ok links := by
  constructor
  · intro h
    fun_cases linksOfTokens ts with
    | case1 => cases h
    | case2 n ts => cases h
    | case3 o => cases h
    | case4 o p ts => cases h
    | case5 o' n ts =>
        rw [linksOfTokens] at h
        cases hts : linksOfTokens ts with
        | error e => rw [hts] at h; cases h
        | ok links' => rw [hts] at h; cases h; exact ⟨n, ts, rfl, rfl, hts⟩
  · rintro ⟨n, us, rfl, rfl, h⟩
    rw [linksOfTokens, h]
    rfl

/-- Links one behind the other are spelled one behind the other. -/
theorem linksOfTokens_eq_ok_append_iff {ts : List Token} {ls ms : List (Operator × Decimal)} :
    linksOfTokens ts = .ok (ls ++ ms) ↔
      ∃ us vs, ts = us ++ vs ∧ linksOfTokens us = .ok ls ∧ linksOfTokens vs = .ok ms := by
  induction ls generalizing ts with
  | nil =>
      constructor
      · exact fun h => ⟨[], ts, rfl, rfl, h⟩
      · rintro ⟨us, vs, rfl, hus, hvs⟩
        rw [linksOfTokens_eq_ok_nil_iff] at hus
        subst hus
        exact hvs
  | cons p ls ih =>
      obtain ⟨o, d⟩ := p
      rw [List.cons_append, linksOfTokens_eq_ok_cons_iff]
      constructor
      · rintro ⟨n, ws, rfl, hn, hws⟩
        obtain ⟨us, vs, rfl, hus, hvs⟩ := ih.mp hws
        exact ⟨.operator o :: .number n :: us, vs, rfl,
          linksOfTokens_eq_ok_cons_iff.mpr ⟨n, us, rfl, hn, hus⟩, hvs⟩
      · rintro ⟨us, vs, rfl, hus, hvs⟩
        obtain ⟨n, us', rfl, hn, hus'⟩ := linksOfTokens_eq_ok_cons_iff.mp hus
        exact ⟨n, us' ++ vs, rfl, hn, ih.mpr ⟨us', vs, rfl, hus', hvs⟩⟩

/-- A chain is spelled by a numeral and its links behind it. -/
theorem Chain.ofTokens_eq_ok_iff {ts : List Token} {c : Chain} :
    ofTokens ts = .ok c ↔
      ∃ n us, ts = .number n :: us ∧ n.value = c.first ∧ linksOfTokens us = .ok c.rest := by
  constructor
  · intro h
    fun_cases ofTokens ts with
    | case1 => cases h
    | case2 o ts => cases h
    | case3 n ts =>
        rw [ofTokens] at h
        cases hts : linksOfTokens ts with
        | error e => rw [hts] at h; cases h
        | ok links => rw [hts] at h; cases h; exact ⟨n, ts, rfl, rfl, hts⟩
  · rintro ⟨n, us, rfl, hn, hus⟩
    rw [ofTokens, hus, hn]
    rfl

/-! ### Numerals with operators between them -/

/-- The tokens of links: an operator and a numeral for each of them. -/
def linkTokens (links : List (Operator × Literal)) : List Token :=
  links.flatMap fun p => [.operator p.1, .number p.2]

@[simp] theorem linkTokens_nil : linkTokens [] = [] := rfl

@[simp] theorem linkTokens_cons (o : Operator) (n : Literal) (links : List (Operator × Literal)) :
    linkTokens ((o, n) :: links) = .operator o :: .number n :: linkTokens links := rfl

/-- Token lists that spell links are the tokens of links with numerals in them. -/
theorem linksOfTokens_eq_ok_iff {ts : List Token} {ds : List (Operator × Decimal)} :
    linksOfTokens ts = .ok ds ↔
      ∃ links, ts = linkTokens links ∧ ds = links.map fun p => (p.1, p.2.value) := by
  induction ds generalizing ts with
  | nil =>
      rw [linksOfTokens_eq_ok_nil_iff]
      constructor
      · rintro rfl
        exact ⟨[], rfl, rfl⟩
      · rintro ⟨links, rfl, hlinks⟩
        rw [List.map_eq_nil_iff.mp hlinks.symm, linkTokens_nil]
  | cons p ds ih =>
      obtain ⟨o, d⟩ := p
      rw [linksOfTokens_eq_ok_cons_iff]
      constructor
      · rintro ⟨n, us, rfl, rfl, hus⟩
        obtain ⟨links, rfl, rfl⟩ := ih.mp hus
        exact ⟨(o, n) :: links, rfl, rfl⟩
      · rintro ⟨links, rfl, hlinks⟩
        obtain ⟨⟨o', n⟩, links, rfl, hp, rfl⟩ := List.map_eq_cons_iff.mp hlinks.symm
        cases hp
        exact ⟨n, linkTokens links, rfl, rfl, ih.mpr ⟨links, rfl, rfl⟩⟩

/-- Token lists that spell a chain are a numeral and the tokens of links. -/
theorem Chain.ofTokens_eq_ok_iff_linkTokens {ts : List Token} {c : Chain} :
    ofTokens ts = .ok c ↔
      ∃ n links, ts = .number n :: linkTokens links ∧
        c = ⟨n.value, links.map fun p => (p.1, p.2.value)⟩ := by
  rw [ofTokens_eq_ok_iff]
  constructor
  · rintro ⟨n, us, rfl, hn, hus⟩
    obtain ⟨links, rfl, hrest⟩ := linksOfTokens_eq_ok_iff.mp hus
    exact ⟨n, links, rfl, by rw [hn, ← hrest]⟩
  · rintro ⟨n, links, rfl, rfl⟩
    exact ⟨n, linkTokens links, rfl, rfl, linksOfTokens_eq_ok_iff.mpr ⟨links, rfl, rfl⟩⟩

/-- Tokens pass the check when there are three at least and no numeral among them is too long. -/
theorem checkTokens_eq_ok_iff {ts : List Token} :
    checkTokens ts = .ok () ↔
      3 ≤ ts.length ∧ ∀ n, .number n ∈ ts → n.digits.length ≤ maxLiteralDigits := by
  unfold checkTokens
  split
  · next hfew => exact iff_of_false (by simp) fun h => absurd h.1 (by omega)
  · next hmany =>
    split
    · next hany =>
      refine iff_of_false (by simp) fun h => ?_
      obtain ⟨t, ht, hlong⟩ := List.any_eq_true.mp hany
      cases t with
      | number n => exact absurd (h.2 n ht) (by simpa using hlong)
      | operator o => cases hlong
    · next hany =>
      refine iff_of_true rfl ⟨by omega, fun n hn => Nat.le_of_not_lt fun hlong => hany ?_⟩
      exact List.any_eq_true.mpr ⟨.number n, hn, by simpa using hlong⟩

/-! ### Trees -/

/-- The token lists over which a tree stands: its numerals and operators from left to right. -/
inductive Tree.Reads : Tree → List Token → Prop where
  /-- A number over its numeral. -/
  | number (n : Literal) : Reads (.number n.value) [.number n]
  /-- An application over its left operand, its operator and its right operand. -/
  | node {o : Operator} {l r : Tree} {us vs : List Token} (left : Reads l us) (right : Reads r vs) :
      Reads (.node o l r) (us ++ .operator o :: vs)

/-- **A tree stands over the token lists that spell its chain.** -/
theorem Tree.reads_iff_ofTokens_eq_ok {x : Tree} {ts : List Token} :
    x.Reads ts ↔ Chain.ofTokens ts = .ok x.toChain := by
  induction x generalizing ts with
  | number d =>
      rw [Chain.ofTokens_eq_ok_iff]
      constructor
      · intro h
        cases h with
        | number n => exact ⟨n, [], rfl, rfl, rfl⟩
      · rintro ⟨n, us, rfl, hn, hus⟩
        obtain rfl : n.value = d := hn
        obtain rfl := linksOfTokens_eq_ok_nil_iff.mp hus
        exact .number n
  | node o l r ihl ihr =>
      rw [toChain_node, Chain.ofTokens_eq_ok_iff]
      constructor
      · intro h
        cases h with
        | @node _ _ _ us vs left right =>
            obtain ⟨n, us', rfl, hn, hus⟩ := Chain.ofTokens_eq_ok_iff.mp (ihl.mp left)
            obtain ⟨m, vs', rfl, hm, hvs⟩ := Chain.ofTokens_eq_ok_iff.mp (ihr.mp right)
            refine ⟨n, us' ++ .operator o :: .number m :: vs', rfl, hn, ?_⟩
            exact linksOfTokens_eq_ok_append_iff.mpr
              ⟨us', _, rfl, hus, linksOfTokens_eq_ok_cons_iff.mpr ⟨m, vs', rfl, hm, hvs⟩⟩
      · rintro ⟨n, ws, rfl, hn, hws⟩
        obtain ⟨us, vs, rfl, hus, hvs⟩ := linksOfTokens_eq_ok_append_iff.mp hws
        obtain ⟨m, vs', rfl, hm, hvs'⟩ := linksOfTokens_eq_ok_cons_iff.mp hvs
        have left : l.Reads (.number n :: us) :=
          ihl.mpr (Chain.ofTokens_eq_ok_iff.mpr ⟨n, us, rfl, hn, hus⟩)
        have right : r.Reads (.number m :: vs') :=
          ihr.mpr (Chain.ofTokens_eq_ok_iff.mpr ⟨m, vs', rfl, hm, hvs'⟩)
        exact .node left right

end Calc

end LineShell
