import LineShell.Proofs.Calc.Reading
import LineShell.Proofs.Calc.Scanning

/-!
# What the calculator reads

The texts that are read are the spellings of expressions: a number and at least one link behind it, and
no numeral too long (`IsExpression`). What is no expression deviates from the alternation of numbers
and operators, and the first deviation is what is said about it (`Chain.ofTokens_eq_error_iff`).

A token deviates when it stands where a token of the other kind is due, or is an operator with which
the expression ends. Numbers are due at the places that are even, counted from zero. Two tokens more in
front move every deviation by two places, so the induction takes tokens in pairs.

**Main statement** (`chainOf_shown_of_spells_iff`): all this together.
-/

namespace LineShell

namespace Calc

/-! ### Expressions -/

/-- Whether a numeral is not too long. -/
def Literal.IsShort (n : Literal) : Prop := n.digits.length ≤ maxLiteralDigits

/-- Whether numbers and operators make an expression: there is an operator, and no numeral is too
long. -/
structure IsExpression (n : Literal) (links : List (Operator × Literal)) : Prop where
  /-- There is an operator. -/
  links_ne_nil : links ≠ []
  /-- No numeral is too long. -/
  isShort : ∀ m ∈ n :: links.map Prod.snd, m.IsShort

/-- The chain that numerals with operators between them make. -/
def Chain.ofLiterals (n : Literal) (links : List (Operator × Literal)) : Chain :=
  ⟨n.value, links.map fun p => (p.1, p.2.value)⟩

/-- The numerals among the tokens of links are theirs. -/
theorem number_mem_linkTokens_iff {links : List (Operator × Literal)} {m : Literal} :
    .number m ∈ linkTokens links ↔ m ∈ links.map Prod.snd := by
  simp [linkTokens]

/-- Each link has two tokens. -/
theorem length_linkTokens (links : List (Operator × Literal)) :
    (linkTokens links).length = 2 * links.length := by
  induction links with
  | nil => rfl
  | cons p links ih =>
      obtain ⟨o, n⟩ := p
      rw [linkTokens_cons, List.length_cons, List.length_cons, ih, List.length_cons]
      omega

/-- The tokens of numerals and operators pass the check when they make an expression. -/
theorem checkTokens_linkTokens_iff {n : Literal} {links : List (Operator × Literal)} :
    checkTokens (.number n :: linkTokens links) = .ok () ↔ IsExpression n links := by
  have hlength : 3 ≤ (Token.number n :: linkTokens links).length ↔ links ≠ [] := by
    rw [List.length_cons, length_linkTokens, ← List.length_pos_iff]
    omega
  have hshort : (∀ m, .number m ∈ Token.number n :: linkTokens links → m.IsShort) ↔
      ∀ m ∈ n :: links.map Prod.snd, m.IsShort := by
    simp only [List.mem_cons, Token.number.injEq, number_mem_linkTokens_iff]
  rw [checkTokens_eq_ok_iff, hlength]
  exact ⟨fun h => ⟨h.1, hshort.mp h.2⟩, fun h => ⟨h.1, hshort.mpr h.2⟩⟩

/-- **A text is read as a chain** exactly when its tokens are those of an expression that makes the
chain. -/
theorem chainOf_eq_ok_iff {text : String} {c : Chain} :
    chainOf text = .ok c ↔
      ∃ n links, tokens text = .number n :: linkTokens links ∧ IsExpression n links ∧
        c = Chain.ofLiterals n links := by
  rw [chainOf]
  cases hcheck : checkTokens (tokens text) with
  | error e =>
      refine iff_of_false (by simp [bind, Except.bind]) ?_
      rintro ⟨n, links, htokens, hexpression, -⟩
      rw [htokens, checkTokens_linkTokens_iff.mpr hexpression] at hcheck
      cases hcheck
  | ok _ =>
      have hbind : (Except.ok () >>= fun _ => Chain.ofTokens (tokens text)) =
          Chain.ofTokens (tokens text) := rfl
      rw [hbind, Chain.ofTokens_eq_ok_iff_linkTokens]
      constructor
      · rintro ⟨n, links, htokens, rfl⟩
        rw [htokens] at hcheck
        exact ⟨n, links, htokens, checkTokens_linkTokens_iff.mp hcheck, rfl⟩
      · rintro ⟨n, links, htokens, -, rfl⟩
        exact ⟨n, links, htokens, rfl⟩

/-! ### Deviations -/

/-- Whether a token list deviates at a place, counted from zero, from the alternation of numbers and
operators, and what is said about that. -/
inductive Deviates (ts : List Token) : Nat → Error → Prop where
  /-- An operator stands where a number is due. -/
  | operator {i : Nat} {o : Operator} (even : i % 2 = 0) (found : ts[i]? = some (.operator o)) :
      Deviates ts i (.numberExpected o.symbol)
  /-- A number stands where an operator is due. -/
  | number {i : Nat} {n : Literal} (odd : i % 2 = 1) (found : ts[i]? = some (.number n)) :
      Deviates ts i (.operatorExpected (Token.number n).text)
  /-- An operator stands where one is due, but nothing stands behind it. -/
  | last {i : Nat} {o : Operator} (odd : i % 2 = 1) (found : ts[i]? = some (.operator o))
      (ended : ts.length = i + 1) : Deviates ts i (.operandMissing o.symbol)

/-- At one place there is one thing to be said. -/
theorem Deviates.unique {ts : List Token} {i : Nat} {e f : Error} (h : Deviates ts i e)
    (h' : Deviates ts i f) : e = f := by
  cases h <;> cases h' <;> simp_all

/-- Two tokens in front move a deviation by two places. -/
theorem deviates_add_two {a b : Token} {ts : List Token} {i : Nat} {e : Error} :
    Deviates (a :: b :: ts) (i + 2) e ↔ Deviates ts i e := by
  constructor
  · intro h
    cases h with
    | operator even found => exact .operator (by omega) (by simpa using found)
    | number odd found => exact .number (by omega) (by simpa using found)
    | last odd found ended =>
        exact .last (by omega) (by simpa using found) (by simp at ended; omega)
  · intro h
    cases h with
    | operator even found => exact .operator (by omega) (by simpa using found)
    | number odd found => exact .number (by omega) (by simpa using found)
    | last odd found ended => exact .last (by omega) (by simpa using found) (by simp [ended])

/-- Whether a place is the first at which a token list deviates. -/
structure IsFirstDeviation (ts : List Token) (i : Nat) (e : Error) : Prop where
  /-- There is a deviation. -/
  deviates : Deviates ts i e
  /-- There is none before. -/
  first : ∀ j < i, ∀ f, ¬ Deviates ts j f

/-- There is one first deviation at most. -/
theorem IsFirstDeviation.unique {ts : List Token} {i j : Nat} {e f : Error}
    (h : IsFirstDeviation ts i e) (h' : IsFirstDeviation ts j f) : e = f := by
  rcases Nat.lt_trichotomy i j with hlt | rfl | hlt
  · exact absurd h.deviates (h'.first i hlt e)
  · exact h.deviates.unique h'.deviates
  · exact absurd h'.deviates (h.first j hlt f)

/-- A first deviation is the only one that is reported. -/
theorem IsFirstDeviation.error_eq_iff {ts : List Token} {i : Nat} {e : Error}
    (h : IsFirstDeviation ts i e) (f : Error) : e = f ↔ ∃ j, IsFirstDeviation ts j f := by
  constructor
  · rintro rfl
    exact ⟨i, h⟩
  · rintro ⟨j, hj⟩
    exact h.unique hj

/-- A number in front does not deviate. -/
theorem not_deviates_zero (n : Literal) (ts : List Token) (e : Error) :
    ¬ Deviates (.number n :: ts) 0 e := by
  intro h
  cases h with
  | operator even found => cases found
  | number odd found => cases odd
  | last odd found ended => cases odd

/-- An operator at the second place does not deviate if something stands behind it. -/
theorem not_deviates_one (t : Token) (o : Operator) {ts : List Token} (hts : ts ≠ []) (e : Error) :
    ¬ Deviates (t :: .operator o :: ts) 1 e := by
  intro h
  cases h with
  | operator even found => cases even
  | number odd found => cases found
  | last odd found ended => exact hts (List.length_eq_zero_iff.mp (by simpa using ended))

/-- Neither does a number with such an operator behind it. -/
theorem not_deviates_of_lt_two (n : Literal) (o : Operator) {ts : List Token} (hts : ts ≠ []) :
    ∀ j < 2, ∀ e, ¬ Deviates (.number n :: .operator o :: ts) j e := by
  intro j hj e
  obtain rfl | rfl : j = 0 ∨ j = 1 := by omega
  · exact not_deviates_zero n _ e
  · exact not_deviates_one _ o hts e

/-- Behind a number and an operator the first deviation is that of the tokens that follow. -/
theorem exists_isFirstDeviation_add_two {n : Literal} {o : Operator} {ts : List Token}
    (hts : ts ≠ []) {e : Error} :
    (∃ i, IsFirstDeviation (.number n :: .operator o :: ts) i e) ↔ ∃ i, IsFirstDeviation ts i e := by
  have hfirst := not_deviates_of_lt_two n o hts
  constructor
  · rintro ⟨i, hi⟩
    obtain ⟨i, rfl⟩ : ∃ k, i = k + 2 := by
      refine ⟨i - 2, ?_⟩
      by_cases hlt : i < 2
      · exact absurd hi.deviates (hfirst i hlt e)
      · omega
    exact ⟨i, deviates_add_two.mp hi.deviates,
      fun j hj f hf => hi.first (j + 2) (by omega) f (deviates_add_two.mpr hf)⟩
  · rintro ⟨i, hi⟩
    refine ⟨i + 2, deviates_add_two.mpr hi.deviates, fun j hj f hf => ?_⟩
    by_cases hlt : j < 2
    · exact hfirst j hlt f hf
    · obtain ⟨k, rfl⟩ : ∃ k, j = k + 2 := ⟨j - 2, by omega⟩
      exact hi.first k (by omega) f (deviates_add_two.mp hf)

/-- A number alone does not deviate. -/
theorem not_deviates_singleton (n : Literal) (i : Nat) (e : Error) : ¬ Deviates [.number n] i e := by
  intro h
  cases h with
  | operator even found => cases i <;> simp at found
  | number odd found => cases i <;> simp at odd found
  | last odd found ended => cases i <;> simp at found

/-- Behind a number and an operator a chain is read as from the number that follows. -/
theorem Chain.ofTokens_number_operator_number (n : Literal) (o : Operator) (m : Literal)
    (ts : List Token) (e : Error) :
    ofTokens (.number n :: .operator o :: .number m :: ts) = .error e ↔
      ofTokens (.number m :: ts) = .error e := by
  rw [ofTokens, ofTokens, linksOfTokens]
  cases linksOfTokens ts with
  | error f => simp [Except.map]
  | ok links => simp [Except.map]

/-- **What is said about tokens that are no chain** is what their first deviation calls for. -/
theorem Chain.ofTokens_eq_error_iff :
    ∀ {ts : List Token}, ts ≠ [] → ∀ {e : Error},
      (ofTokens ts = .error e ↔ ∃ i, IsFirstDeviation ts i e)
  | .operator o :: ts, _, e => by
      have hfirst : IsFirstDeviation (.operator o :: ts) 0 (.numberExpected o.symbol) :=
        ⟨.operator rfl rfl, by simp⟩
      rw [ofTokens, Except.error.injEq]
      exact hfirst.error_eq_iff e
  | [.number n], _, e => by
      refine iff_of_false (by simp [ofTokens, linksOfTokens, Except.map]) ?_
      rintro ⟨i, hi⟩
      exact not_deviates_singleton n i e hi.deviates
  | .number n :: .number m :: ts, _, e => by
      have hfirst : IsFirstDeviation (.number n :: .number m :: ts) 1
          (.operatorExpected (Token.number m).text) := by
        refine ⟨.number rfl rfl, fun j hj => ?_⟩
        obtain rfl : j = 0 := by omega
        exact not_deviates_zero n _
      rw [ofTokens, linksOfTokens, Except.map, Except.error.injEq]
      exact hfirst.error_eq_iff e
  | [.number n, .operator o], _, e => by
      have hfirst : IsFirstDeviation [.number n, .operator o] 1 (.operandMissing o.symbol) := by
        refine ⟨.last rfl rfl rfl, fun j hj => ?_⟩
        obtain rfl : j = 0 := by omega
        exact not_deviates_zero n _
      rw [ofTokens, linksOfTokens, Except.map, Except.error.injEq]
      exact hfirst.error_eq_iff e
  | .number n :: .operator o :: .operator p :: ts, _, e => by
      have hfirst : IsFirstDeviation (.number n :: .operator o :: .operator p :: ts) 2
          (.numberExpected p.symbol) :=
        ⟨.operator rfl rfl, not_deviates_of_lt_two n o (List.cons_ne_nil _ _)⟩
      rw [ofTokens, linksOfTokens, Except.map, Except.error.injEq]
      exact hfirst.error_eq_iff e
  | .number n :: .operator o :: .number m :: ts, _, e => by
      rw [ofTokens_number_operator_number, ofTokens_eq_error_iff (List.cons_ne_nil _ _),
        exists_isFirstDeviation_add_two (List.cons_ne_nil _ _)]

/-- **Tokens deviate somewhere** exactly when they are not a numeral and the tokens of links. -/
theorem exists_isFirstDeviation_iff {ts : List Token} (hts : ts ≠ []) :
    (∃ i e, IsFirstDeviation ts i e) ↔ ¬ ∃ n links, ts = .number n :: linkTokens links := by
  cases h : Chain.ofTokens ts with
  | error e =>
      refine iff_of_true ?_ ?_
      · obtain ⟨i, hi⟩ := (Chain.ofTokens_eq_error_iff hts).mp h
        exact ⟨i, e, hi⟩
      · rintro ⟨n, links, hlinks⟩
        rw [Chain.ofTokens_eq_ok_iff_linkTokens.mpr ⟨n, links, hlinks, rfl⟩] at h
        cases h
  | ok c =>
      refine iff_of_false ?_ ?_
      · rintro ⟨i, e, hi⟩
        rw [(Chain.ofTokens_eq_error_iff hts).mpr ⟨i, hi⟩] at h
        cases h
      · obtain ⟨n, links, hlinks, -⟩ := Chain.ofTokens_eq_ok_iff_linkTokens.mp h
        exact not_not_intro ⟨n, links, hlinks⟩

/-! ### Texts -/

/-- An expression is made of its words, is not empty, and keeps the limits. -/
theorem normalize_eq_ok_iff {ws : List String} {text : String} :
    normalize ws = .ok text ↔
      text = Text.unwords (Text.words (Text.unwords ws)) ∧ text ≠ "" ∧ text.length ≤ maxInput ∧
        ∀ ch ∈ text.toList, isExpressionChar ch = true := by
  unfold normalize
  generalize Text.unwords (Text.words (Text.unwords ws)) = t
  have hall : (!t.toList.all isExpressionChar) = true ↔ ¬ ∀ ch ∈ t.toList, isExpressionChar ch = true := by
    rw [← List.all_eq_true]
    simp
  simp only []
  split
  · next hempty =>
    rw [String.isEmpty_iff] at hempty
    refine iff_of_false (fun h => by cases h) ?_
    rintro ⟨rfl, hne, -⟩
    exact hne hempty
  · next hempty =>
    rw [String.isEmpty_iff] at hempty
    split
    · next hlong =>
      refine iff_of_false (fun h => by cases h) ?_
      rintro ⟨rfl, -, hshort, -⟩
      omega
    · next hshort =>
      split
      · next hchars =>
        refine iff_of_false (fun h => by cases h) ?_
        rintro ⟨rfl, -, -, hvalid⟩
        exact hall.mp hchars hvalid
      · next hchars =>
        rw [Except.ok.injEq]
        constructor
        · rintro rfl
          exact ⟨rfl, hempty, Nat.le_of_not_lt hshort, Classical.not_not.mp (mt hall.mpr hchars)⟩
        · rintro ⟨rfl, -⟩
          rfl

/-- The expression that words make has only characters of expressions. -/
theorem isExpressionChar_of_normalize {ws : List String} {text : String}
    (h : normalize ws = .ok text) : ∀ c ∈ text.toList, isExpressionChar c = true :=
  (normalize_eq_ok_iff.mp h).2.2.2

/-- The tokens of a shown text are those of its characters. -/
theorem tokens_shown (text : String) : tokens (shown text) = tokensOfChars (shownChars text.toList) := by
  rw [tokens, shown, String.toList_ofList]

/-- **What the calculator reads.** A text that spells an expression, with any fillers between its parts
and with carets or stars for powers, has the tokens of the expression, and is read as its chain. A text
that words make is read as a chain only if it is a spelling of an expression that makes this chain. And
three tokens or more without a numeral that is too long are turned down if they are no number with links
behind it; what is said then is what the first deviation calls for. -/
theorem chainOf_shown_of_spells_iff :
    (∀ (text : String) (n : Literal) (links : List (Operator × Literal)),
        Spells text.toList n links → IsExpression n links →
        tokens (shown text) = .number n :: linkTokens links ∧
          chainOf (shown text) = .ok (Chain.ofLiterals n links)) ∧
      (∀ (ws : List String) (text : String) (c : Chain),
        normalize ws = .ok text → chainOf (shown text) = .ok c →
        ∃ n links, Spells text.toList n links ∧ IsExpression n links ∧
          c = Chain.ofLiterals n links) ∧
      (∀ ts : List Token, 3 ≤ ts.length → (∀ n, .number n ∈ ts → n.IsShort) →
        checkTokens ts = .ok () ∧
          (∀ e, Chain.ofTokens ts = .error e ↔ ∃ i, IsFirstDeviation ts i e) ∧
          ((∃ i e, IsFirstDeviation ts i e) ↔ ¬ ∃ n links, ts = .number n :: linkTokens links)) := by
  refine ⟨?_, ?_, ?_⟩
  · intro text n links hspells hexpression
    have htokens : tokens (shown text) = .number n :: linkTokens links := by
      rw [tokens_shown, hspells.tokensOfChars_eq]
    exact ⟨htokens, chainOf_eq_ok_iff.mpr ⟨n, links, htokens, hexpression, rfl⟩⟩
  · intro ws text c hwords hchain
    obtain ⟨n, links, htokens, hexpression, rfl⟩ := chainOf_eq_ok_iff.mp hchain
    rw [tokens_shown] at htokens
    exact ⟨n, links, (spells_iff_tokensOfChars (isExpressionChar_of_normalize hwords)).mpr htokens,
      hexpression, rfl⟩
  · intro ts hlength hshort
    have hts : ts ≠ [] := by
      rintro rfl
      cases hlength
    exact ⟨checkTokens_eq_ok_iff.mpr ⟨hlength, hshort⟩, fun e => Chain.ofTokens_eq_error_iff hts,
      exists_isFirstDeviation_iff hts⟩

/-- A product with a signed power, where the sign stands behind a parenthesis and a caret before a sign;
the words that make it; and a token list with a star where its second number is due. -/
theorem chainOf_of_signed_power :
    chainOf (shown "2*( -03 )^+1") = .ok ⟨⟨2, 0⟩, [(.mul, ⟨-3, 0⟩), (.pow, ⟨1, 0⟩)]⟩ ∧
      (∃ n links, Spells "2*( -03 )^+1".toList n links ∧ IsExpression n links ∧
        Chain.mk ⟨2, 0⟩ [(.mul, ⟨-3, 0⟩), (.pow, ⟨1, 0⟩)] = Chain.ofLiterals n links) ∧
      Chain.ofTokens [.number ⟨none, ['5']⟩, .operator .add, .operator .mul, .number ⟨none, ['3']⟩] =
        .error (.numberExpected "*") := by
  have hall : "2*( -03 )^+1".toList.all isExpressionChar = true := by decide +kernel
  have hspells : Spells "2*( -03 )^+1".toList ⟨none, ['2']⟩
      [(.mul, ⟨some .minus, ['0', '3']⟩), (.pow, ⟨some .plus, ['1']⟩)] :=
    (spells_iff_tokensOfChars (List.all_eq_true.mp hall)).mpr (by decide +kernel)
  have hexpression : IsExpression ⟨none, ['2']⟩
      [(.mul, ⟨some .minus, ['0', '3']⟩), (.pow, ⟨some .plus, ['1']⟩)] :=
    ⟨by simp, by simp [Literal.IsShort, maxLiteralDigits]⟩
  have hchain : chainOf (shown "2*( -03 )^+1") =
      .ok ⟨⟨2, 0⟩, [(.mul, ⟨-3, 0⟩), (.pow, ⟨1, 0⟩)]⟩ :=
    (chainOf_shown_of_spells_iff.1 _ _ _ hspells hexpression).2
  have hwords : normalize ["2*(", "-03", ")^+1"] = .ok "2*( -03 )^+1" := by rfl
  refine ⟨hchain, chainOf_shown_of_spells_iff.2.1 _ _ _ hwords hchain, ?_⟩
  have hreport := (chainOf_shown_of_spells_iff.2.2
    [.number ⟨none, ['5']⟩, .operator .add, .operator .mul, .number ⟨none, ['3']⟩] (by decide)
    (by simp [Literal.IsShort, maxLiteralDigits])).2.1
  refine (hreport _).mpr ⟨2, @Deviates.operator _ 2 .mul rfl rfl, ?_⟩
  exact not_deviates_of_lt_two _ _ (by simp)

end Calc

end LineShell
