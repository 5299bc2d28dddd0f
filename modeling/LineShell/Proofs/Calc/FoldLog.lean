import LineShell.Proofs.Calc.Application

/-!
# What a fold applies

A fold applies operators to numbers, one after another, until one of them fails. `Chain.logged` makes the
same passes as `Chain.value` and notes each application on the way; it comes to the same
(`Chain.result_logged`), and if it fails, the last application that is noted is the one that failed
(`Chain.exists_failed_of_value_eq_error`).

A pass applies the operators of its own tier only (`tier_of_mem_applications`), each of them to the number
that stands behind it in the chain, and from left to right: nothing that is computed becomes a right operand
in the pass that computes it (`map_applications_isPrefix`). Powers are the first pass, so their right
operands are numerals that were typed. An exponent is cut to a whole number and judged by its leading
digits; for such a numeral both come to what it writes.

**Main statement** (`exponents_are_typed`): the right operands of the powers that a fold applies are the
numerals behind the power operators, from left to right, and each is taken for the integer that it writes
exactly if this is not too large.
-/

namespace LineShell

namespace Calc

/-! ### Noting applications -/

deriving instance DecidableEq for Application

/-- What a computation comes to, and the applications that it makes on the way. -/
structure Logged (α : Type) where
  /-- The value or the failure. -/
  result : Except Failure α
  /-- The applications, in the order in which they are made. -/
  applications : List Application

/-- What follows a computation: the next one, unless there was a failure. -/
def Logged.andThen {α β : Type} (l : Logged α) (f : α → Logged β) : Logged β :=
  match l.result with
  | .ok a => ⟨(f a).result, l.applications ++ (f a).applications⟩
  | .error e => ⟨.error e, l.applications⟩

/-- One tier folded from left to right, with each application noted. -/
def foldLinksLogged (t : Tier) : Decimal → List (Operator × Decimal) → Logged Chain
  | x, [] => ⟨.ok ⟨x, []⟩, []⟩
  | x, (o, y) :: links =>
      if o.tier = t then
        match o.apply x y with
        | .error f => ⟨.error f, [⟨o, x, y⟩]⟩
        | .ok v =>
            let l := foldLinksLogged t v links
            ⟨l.result, ⟨o, x, y⟩ :: l.applications⟩
      else
        let l := foldLinksLogged t y links
        ⟨l.result.map fun c => ⟨x, (o, c.first) :: c.rest⟩, l.applications⟩

namespace Chain

/-- The chain with one tier folded, with each application noted. -/
def foldTierLogged (t : Tier) (c : Chain) : Logged Chain := foldLinksLogged t c.first c.rest

/-- The value of a chain, with each application noted. -/
def logged (c : Chain) : Logged Decimal :=
  (c.foldTierLogged .powers).andThen fun c₁ => (c₁.foldTierLogged .products).andThen fun c₂ =>
    (c₂.foldTierLogged .sums).andThen fun c₃ => ⟨.ok c₃.first, []⟩

end Chain

/-! ### The same computation -/

theorem Logged.result_andThen {α β : Type} (l : Logged α) (f : α → Logged β) :
    (l.andThen f).result = l.result.bind fun a => (f a).result := by
  rw [andThen]
  cases l.result <;> rfl

/-- What is noted behind a computation is noted behind its own applications. -/
theorem Logged.exists_applications_andThen {α β : Type} (l : Logged α) (f : α → Logged β) :
    ∃ as, (l.andThen f).applications = l.applications ++ as ∧
      ∀ a ∈ as, ∃ b, l.result = .ok b ∧ a ∈ (f b).applications := by
  rw [andThen]
  cases hl : l.result with
  | error e => exact ⟨[], by simp, by simp⟩
  | ok b => exact ⟨(f b).applications, rfl, fun a ha => ⟨b, rfl, ha⟩⟩

/-- An operator of the tier is applied and noted. -/
theorem foldLinksLogged_cons_of_eq {t : Tier} {o : Operator} (h : o.tier = t) (x y : Decimal)
    (links : List (Operator × Decimal)) :
    foldLinksLogged t x ((o, y) :: links) =
      (Logged.mk (o.apply x y) [⟨o, x, y⟩]).andThen fun v => foldLinksLogged t v links := by
  rw [foldLinksLogged, if_pos h, Logged.andThen]
  cases o.apply x y <;> rfl

/-- Any other operator is kept. -/
theorem foldLinksLogged_cons_of_ne {t : Tier} {o : Operator} (h : o.tier ≠ t) (x y : Decimal)
    (links : List (Operator × Decimal)) :
    foldLinksLogged t x ((o, y) :: links) =
      ⟨(foldLinksLogged t y links).result.map fun c => ⟨x, (o, c.first) :: c.rest⟩,
        (foldLinksLogged t y links).applications⟩ := by
  rw [foldLinksLogged, if_neg h]

/-- Noting applications does not change what a pass comes to. -/
theorem result_foldLinksLogged (t : Tier) (x : Decimal) (links : List (Operator × Decimal)) :
    (foldLinksLogged t x links).result = foldLinks t x links := by
  induction links generalizing x with
  | nil => rfl
  | cons p links ih =>
      obtain ⟨o, y⟩ := p
      by_cases h : o.tier = t
      · rw [foldLinksLogged_cons_of_eq h, foldLinks_cons_of_eq h, Logged.result_andThen]
        exact congrArg _ (funext ih)
      · rw [foldLinksLogged_cons_of_ne h, foldLinks_cons_of_ne h, ih]
        cases foldLinks t y links <;> rfl

/-- **The applications that are noted are those of the fold:** it comes to the same. -/
theorem Chain.result_logged (c : Chain) : c.logged.result = c.value := by
  have htier : ∀ (t : Tier) (d : Chain), (d.foldTierLogged t).result = d.foldTier t :=
    fun t d => result_foldLinksLogged t d.first d.rest
  simp only [logged, Logged.result_andThen, htier, value_eq_bind]

/-- A pass that fails fails at the last application that it makes. -/
theorem exists_failed_of_foldLinksLogged {t : Tier} {x : Decimal} {links : List (Operator × Decimal)}
    {f : Failure} (h : (foldLinksLogged t x links).result = .error f) :
    ∃ as a, (foldLinksLogged t x links).applications = as ++ [a] ∧ a.outcome = .error f := by
  induction links generalizing x with
  | nil => cases h
  | cons p links ih =>
      obtain ⟨o, y⟩ := p
      by_cases ho : o.tier = t
      · rw [foldLinksLogged_cons_of_eq ho, Logged.andThen] at h ⊢
        cases hv : o.apply x y with
        | error g =>
            simp only [hv] at h ⊢
            cases h
            exact ⟨[], ⟨o, x, y⟩, rfl, hv⟩
        | ok v =>
            simp only [hv] at h ⊢
            obtain ⟨as, a, has, ha⟩ := ih h
            exact ⟨⟨o, x, y⟩ :: as, a, by rw [has]; rfl, ha⟩
      · rw [foldLinksLogged_cons_of_ne ho] at h ⊢
        cases hrest : (foldLinksLogged t y links).result with
        | error g =>
            simp only [hrest, Except.map] at h
            cases h
            exact ih hrest
        | ok d => simp only [hrest, Except.map] at h; cases h

/-- What fails behind a computation, or in it. -/
theorem Logged.exists_failed_andThen {α β : Type} {l : Logged α} {f : α → Logged β} {e : Failure}
    {P : Application → Prop} (h : (l.andThen f).result = .error e)
    (hl : l.result = .error e → ∃ as a, l.applications = as ++ [a] ∧ P a)
    (hf : ∀ b, (f b).result = .error e → ∃ as a, (f b).applications = as ++ [a] ∧ P a) :
    ∃ as a, (l.andThen f).applications = as ++ [a] ∧ P a := by
  rw [andThen] at h ⊢
  cases hresult : l.result with
  | error g =>
      simp only [hresult] at h ⊢
      cases h
      exact hl hresult
  | ok b =>
      simp only [hresult] at h ⊢
      obtain ⟨as, a, has, ha⟩ := hf b h
      exact ⟨l.applications ++ as, a, by rw [has, List.append_assoc], ha⟩

/-- **A fold fails at the last application that it makes.** -/
theorem Chain.exists_failed_of_value_eq_error {c : Chain} {f : Failure} (h : c.value = .error f) :
    ∃ as a, c.logged.applications = as ++ [a] ∧ a.outcome = .error f := by
  rw [← result_logged] at h
  refine Logged.exists_failed_andThen h exists_failed_of_foldLinksLogged fun c₁ h₁ => ?_
  refine Logged.exists_failed_andThen h₁ exists_failed_of_foldLinksLogged fun c₂ h₂ => ?_
  exact Logged.exists_failed_andThen h₂ exists_failed_of_foldLinksLogged nofun

/-! ### The applications of a pass -/

/-- A pass applies the operators of its tier only. -/
theorem tier_of_mem_applications {t : Tier} {x : Decimal} {links : List (Operator × Decimal)}
    {a : Application} (ha : a ∈ (foldLinksLogged t x links).applications) : a.operator.tier = t := by
  induction links generalizing x with
  | nil => cases ha
  | cons p links ih =>
      obtain ⟨o, y⟩ := p
      by_cases h : o.tier = t
      · rw [foldLinksLogged_cons_of_eq h] at ha
        obtain ⟨as, happs, has⟩ := Logged.exists_applications_andThen
          (Logged.mk (o.apply x y) [⟨o, x, y⟩]) fun v => foldLinksLogged t v links
        rw [happs, List.mem_append, List.mem_singleton] at ha
        rcases ha with rfl | ha
        · exact h
        · obtain ⟨v, -, ha⟩ := has a ha
          exact ih ha
      · rw [foldLinksLogged_cons_of_ne h] at ha
        exact ih ha

/-- **A pass leaves right operands alone:** it applies the operators of its tier to the numbers that stand
behind them, from left to right, and breaks off at a failure. -/
theorem map_applications_isPrefix (t : Tier) (x : Decimal) (links : List (Operator × Decimal)) :
    ((foldLinksLogged t x links).applications.map fun a => (a.operator, a.right)) <+:
      links.filter fun p => p.1.tier = t := by
  induction links generalizing x with
  | nil => exact List.prefix_rfl
  | cons p links ih =>
      obtain ⟨o, y⟩ := p
      by_cases h : o.tier = t
      · rw [foldLinksLogged_cons_of_eq h, List.filter_cons_of_pos (by simpa using h), Logged.andThen]
        cases o.apply x y with
        | error f => exact List.cons_prefix_cons.mpr ⟨rfl, List.nil_prefix⟩
        | ok v => exact List.cons_prefix_cons.mpr ⟨rfl, ih v⟩
      · rw [foldLinksLogged_cons_of_ne h, List.filter_cons_of_neg (by simpa using h)]
        exact ih y

/-- A pass that comes to its end applies all operators of its tier. -/
theorem map_applications_of_result_eq_ok {t : Tier} {x : Decimal} {links : List (Operator × Decimal)}
    {c : Chain} (h : (foldLinksLogged t x links).result = .ok c) :
    ((foldLinksLogged t x links).applications.map fun a => (a.operator, a.right)) =
      links.filter fun p => p.1.tier = t := by
  induction links generalizing x c with
  | nil => rfl
  | cons p links ih =>
      obtain ⟨o, y⟩ := p
      by_cases ho : o.tier = t
      · rw [foldLinksLogged_cons_of_eq ho, Logged.andThen] at h ⊢
        rw [List.filter_cons_of_pos (by simpa using ho)]
        cases hv : o.apply x y with
        | error f => simp only [hv] at h; cases h
        | ok v =>
            simp only [hv] at h ⊢
            exact congrArg (List.cons (o, y)) (ih h)
      · rw [foldLinksLogged_cons_of_ne ho] at h ⊢
        rw [List.filter_cons_of_neg (by simpa using ho)]
        cases hrest : (foldLinksLogged t y links).result with
        | error f => rw [hrest] at h; cases h
        | ok d => exact ih hrest

/-- **The powers of a fold are those of its first pass.** -/
theorem Chain.filter_applications_logged (c : Chain) :
    (c.logged.applications.filter fun a => a.operator.tier = .powers) =
      (c.foldTierLogged .powers).applications := by
  obtain ⟨as, happs, has⟩ := Logged.exists_applications_andThen (c.foldTierLogged .powers) fun c₁ =>
    (c₁.foldTierLogged .products).andThen fun c₂ =>
      (c₂.foldTierLogged .sums).andThen fun c₃ => ⟨.ok c₃.first, []⟩
  have hpowers : ∀ a ∈ (c.foldTierLogged .powers).applications,
      decide (a.operator.tier = .powers) = true :=
    fun a ha => decide_eq_true (tier_of_mem_applications ha)
  have hothers : ∀ a ∈ as, ¬ decide (a.operator.tier = .powers) = true := by
    intro a ha
    obtain ⟨c₁, -, ha⟩ := has a ha
    obtain ⟨bs, hproducts, hbs⟩ := Logged.exists_applications_andThen (c₁.foldTierLogged .products)
      fun c₂ => (c₂.foldTierLogged .sums).andThen fun c₃ => ⟨.ok c₃.first, []⟩
    rw [hproducts, List.mem_append] at ha
    rcases ha with ha | ha
    · simp [tier_of_mem_applications ha]
    · obtain ⟨c₂, -, ha⟩ := hbs a ha
      obtain ⟨ds, hsums, hds⟩ := Logged.exists_applications_andThen (c₂.foldTierLogged .sums)
        fun c₃ => ⟨.ok c₃.first, []⟩
      rw [hsums, List.mem_append] at ha
      rcases ha with ha | ha
      · simp [tier_of_mem_applications ha]
      · obtain ⟨c₃, -, ha⟩ := hds a ha
        cases ha
  rw [logged, happs, List.filter_append, List.filter_eq_self.mpr hpowers,
    List.filter_eq_nil_iff.mpr hothers, List.append_nil]

/-! ### Exponents that are typed -/

/-- Powers are a tier of their own. -/
theorem tier_eq_powers_iff {o : Operator} : o.tier = .powers ↔ o = .pow := by
  cases o <;> decide

/-- The numerals that stand directly behind a power operator, from left to right. -/
def exponentsOf : List Token → List Literal
  | .operator .pow :: .number n :: ts => n :: exponentsOf ts
  | _ :: ts => exponentsOf ts
  | [] => []

/-- In links, the exponents are the numerals of those with a power operator. -/
theorem exponentsOf_linkTokens (links : List (Operator × Literal)) :
    exponentsOf (linkTokens links) = (links.filter fun p => p.1 = .pow).map Prod.snd := by
  induction links with
  | nil => rfl
  | cons p links ih =>
      obtain ⟨o, n⟩ := p
      by_cases h : o = .pow
      · subst h
        simpa [exponentsOf] using ih
      · rw [linkTokens_cons, List.filter_cons_of_neg (by simpa using h), ← ih]
        cases o <;> first | rfl | exact absurd rfl h

/-- An exponent stands in the tokens, behind a power operator. -/
theorem exists_append_of_mem_exponentsOf {ts : List Token} {n : Literal} (h : n ∈ exponentsOf ts) :
    ∃ us vs, ts = us ++ .operator .pow :: .number n :: vs := by
  fun_induction exponentsOf ts with
  | case1 m ts ih =>
      rcases List.mem_cons.mp h with rfl | h
      · exact ⟨[], ts, rfl⟩
      · obtain ⟨us, vs, rfl⟩ := ih h
        exact ⟨.operator .pow :: .number m :: us, vs, rfl⟩
  | case2 t ts _ ih =>
      obtain ⟨us, vs, rfl⟩ := ih h
      exact ⟨t :: us, vs, rfl⟩
  | case3 => cases h

/-- The right operands of the powers that a fold applies. -/
def Chain.exponents (c : Chain) : List Decimal :=
  (c.logged.applications.filter fun a => a.operator = .pow).map Application.right

/-- The powers of a fold have the right operands of the power operators in its first pass. -/
theorem Chain.exponents_eq (c : Chain) :
    c.exponents = ((foldLinksLogged .powers c.first c.rest).applications.map
      fun a => (a.operator, a.right)).map Prod.snd := by
  have hlog := c.filter_applications_logged
  simp only [tier_eq_powers_iff] at hlog
  rw [exponents, hlog, List.map_map]
  rfl

/-- The numerals behind the power operators are those of the links with such an operator. -/
theorem map_value_exponentsOf (n : Literal) (links : List (Operator × Literal)) :
    (exponentsOf (.number n :: linkTokens links)).map Literal.value =
      ((links.map fun p => (p.1, p.2.value)).filter fun p => p.1.tier = .powers).map Prod.snd := by
  simp only [tier_eq_powers_iff]
  rw [exponentsOf, exponentsOf_linkTokens, List.filter_map, List.map_map, List.map_map]
  · rfl
  · nofun

/-- **The powers of a fold** have the numerals behind the power operators for exponents, from left to
right. -/
theorem Chain.exponents_isPrefix {ts : List Token} {c : Chain} (h : ofTokens ts = .ok c) :
    c.exponents <+: (exponentsOf ts).map Literal.value := by
  obtain ⟨n, links, rfl, rfl⟩ := ofTokens_eq_ok_iff_linkTokens.mp h
  rw [exponents_eq, map_value_exponentsOf]
  exact (map_applications_isPrefix .powers _ _).map Prod.snd

/-- A fold that has a value has applied all powers. -/
theorem Chain.exponents_eq_of_value_eq_ok {ts : List Token} {c : Chain} {v : Decimal}
    (h : ofTokens ts = .ok c) (hv : c.value = .ok v) :
    c.exponents = (exponentsOf ts).map Literal.value := by
  obtain ⟨n, links, rfl, rfl⟩ := ofTokens_eq_ok_iff_linkTokens.mp h
  rw [exponents_eq, map_value_exponentsOf]
  rw [value_eq_bind, foldTier] at hv
  cases hpass : foldLinks .powers n.value (links.map fun p => (p.1, p.2.value)) with
  | error f => rw [hpass] at hv; cases hv
  | ok c₁ =>
      rw [map_applications_of_result_eq_ok ((result_foldLinksLogged _ _ _).trans hpass)]

/-- What a numeral is worth is not changed by a cut to a whole number. -/
theorem Literal.truncate_value (n : Literal) : n.value.truncate = n.toInt := by
  rw [Decimal.truncate_eq_tdiv]
  simp [Literal.value, Decimal.ofInt]

/-- **Every exponent is the integer that was typed.** The powers that a fold applies to accepted tokens have
the numerals behind the power operators for right operands, from left to right, and all of them unless
something fails. Such an operand is a whole number, so that nothing is cut off; it is judged too large exactly
if the numeral exceeds the bound, and is taken for what the numeral writes otherwise. -/
theorem exponents_are_typed {ts : List Token} {c : Chain} (hcheck : checkTokens ts = .ok ())
    (hread : Chain.ofTokens ts = .ok c) :
    c.logged.result = c.value ∧
      c.exponents <+: (exponentsOf ts).map Literal.value ∧
      (∀ v, c.value = .ok v → c.exponents = (exponentsOf ts).map Literal.value) ∧
      ∀ a ∈ c.logged.applications, a.operator = .pow →
        ∃ us n vs, ts = us ++ .operator .pow :: .number n :: vs ∧ a.right = n.value ∧
          a.right.truncate = n.toInt ∧ .ofInt a.right.truncate = a.right ∧
          (exponentIsTooLarge a.right = true ↔ maxExponent < n.toInt.natAbs) ∧
          wholeExponent a.right =
            if maxExponent < n.toInt.natAbs then .error (.rejected .exponentTooLarge)
            else .ok n.toInt := by
  refine ⟨c.result_logged, Chain.exponents_isPrefix hread,
    fun v hv => Chain.exponents_eq_of_value_eq_ok hread hv, fun a ha hpow => ?_⟩
  have hright : a.right ∈ (exponentsOf ts).map Literal.value :=
    (Chain.exponents_isPrefix hread).subset
      (List.mem_map_of_mem (List.mem_filter.mpr ⟨ha, decide_eq_true hpow⟩))
  obtain ⟨n, hn, hvalue⟩ := List.mem_map.mp hright
  obtain ⟨us, vs, rfl⟩ := exists_append_of_mem_exponentsOf hn
  have hlength : n.digits.length ≤ maxLiteralDigits :=
    (checkTokens_eq_ok_iff.mp hcheck).2 n (by simp)
  have hshort : n.toInt.natAbs < 10 ^ maxLiteralDigits :=
    Nat.lt_of_lt_of_le n.natAbs_toInt_lt (Nat.pow_le_pow_right (by decide) hlength)
  rw [← hvalue]
  refine ⟨us, n, vs, rfl, rfl, n.truncate_value, ?_, exponentIsTooLarge_ofInt n.toInt,
    wholeExponent_ofInt hshort⟩
  rw [n.truncate_value]
  rfl

/-- The tokens of an expression with three powers, the last of which fails. -/
def threePowers : List Token :=
  [.number ⟨none, ['2']⟩, .operator .pow, .number ⟨none, ['3']⟩, .operator .pow,
    .number ⟨some .minus, ['0', '0', '2']⟩, .operator .sub,
    .number ⟨none, ['7']⟩, .operator .pow, .number ⟨none, List.replicate 30 '9'⟩]

/-- The chain of these tokens. -/
def threePowersChain : Chain :=
  ⟨.ofInt 2, [(.pow, .ofInt 3), (.pow, .ofInt (-2)), (.sub, .ofInt 7),
    (.pow, .ofInt (10 ^ 30 - 1))]⟩

/-- Exponents behind each other, with leading zeros and with more digits than are compared. -/
theorem exponents_are_typed_of_threePowers :
    threePowersChain.value = .error (.rejected .exponentTooLarge) ∧
      threePowersChain.exponents = [.ofInt 3, .ofInt (-2), .ofInt (10 ^ 30 - 1)] ∧
      ∃ us n vs, threePowers = us ++ .operator .pow :: .number n :: vs ∧
        .ofInt (-2) = n.value ∧ wholeExponent (.ofInt (-2)) = .ok n.toInt := by
  have hcheck : checkTokens threePowers = .ok () := by decide
  have hread : Chain.ofTokens threePowers = .ok threePowersChain := by decide +kernel
  obtain ⟨hresult, -, -, hexponents⟩ := exponents_are_typed hcheck hread
  have hlogged : threePowersChain.logged.result = .error (.rejected .exponentTooLarge) := by
    decide +kernel
  have happlied : ⟨.pow, .ofInt 8, .ofInt (-2)⟩ ∈ threePowersChain.logged.applications := by
    decide +kernel
  obtain ⟨us, n, vs, hts, hn, -, -, -, hwhole⟩ := hexponents _ happlied rfl
  refine ⟨hresult.symm.trans hlogged, by decide +kernel, us, n, vs, hts, hn, ?_⟩
  have htwo : n.toInt = -2 := congrArg Decimal.coefficient hn.symm
  rw [hwhole, if_neg (by rw [htwo]; decide)]

end Calc

end LineShell
