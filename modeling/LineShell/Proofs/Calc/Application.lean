import LineShell.Proofs.Calc.Exponent
import LineShell.Proofs.Calc.Folding

/-!
# Applications

What is applied to what in a tree, in the order in which a chain is folded: by tier, and from left to
right within a tier. The first application that comes to no value is the one whose failure ends the
chain (`Chain.value_eq_error_iff_first`).

An application may fail because the calculator turns it down, or because it meets a limit below it
(`Application.MeetsLimit`). Sums, differences, products and remainders meet the limit on digits that can be
asked for. Quotients, and powers with negative exponents, meet the one on numerals that are converted; a
power so close to zero that digits of it are lost is among them, since one divided by it is long.

**Main statement** (`outcome_of_not_meetsLimit`): where the exponent is written as a numeral and no operand
has a positive exponent, nothing else can go wrong.
-/

namespace LineShell

namespace Calc

/-- An operator with the numbers that it is applied to. -/
structure Application where
  /-- The operator. -/
  operator : Operator
  /-- Its left operand. -/
  left : Decimal
  /-- Its right operand. -/
  right : Decimal

namespace Application

/-- What an application comes to. -/
def outcome (p : Application) : Except Failure Decimal := p.operator.apply p.left p.right

/-- Why an application comes to no value, if it comes to none. -/
def failure? (p : Application) : Option Failure :=
  match p.outcome with
  | .ok _ => none
  | .error f => some f

theorem failure?_eq_none_iff {p : Application} : p.failure? = none ↔ ∃ v, p.outcome = .ok v := by
  unfold failure?
  cases p.outcome with
  | ok v => simp
  | error f => simp

theorem failure?_eq_some_iff {p : Application} {f : Failure} :
    p.failure? = some f ↔ p.outcome = .error f := by
  unfold failure?
  cases p.outcome with
  | ok v => simp
  | error g => simp

end Application

/-! ### The applications of a tree -/

namespace Tree

/-- The application of an operator to two operands that have values. -/
def applicationOf (o : Operator) : Option Decimal → Option Decimal → List Application
  | some a, some b => [⟨o, a, b⟩]
  | _, _ => []

theorem mem_applicationOf_iff {o : Operator} {x y : Option Decimal} {p : Application} :
    p ∈ applicationOf o x y ↔ ∃ a b, x = some a ∧ y = some b ∧ p = ⟨o, a, b⟩ := by
  cases x with
  | none => simp [applicationOf]
  | some a => cases y with
    | none => simp [applicationOf]
    | some b => simp [applicationOf]

/-- The applications of one tier, from left to right: those whose operands have values. -/
def applicationsOf (t : Tier) : Tree → List Application
  | number _ => []
  | node o l r =>
      l.applicationsOf t ++ (if o.tier = t then applicationOf o l.value? r.value? else []) ++
        r.applicationsOf t

/-- The applications of a tree, by tier and then from left to right. -/
def applications (x : Tree) : List Application :=
  x.applicationsOf .powers ++ x.applicationsOf .products ++ x.applicationsOf .sums

/-- An application fails as its operator does on the values of its operands. -/
theorem failureOf_eq (o : Operator) (a b : Option Decimal) :
    failureOf o a b = (applicationOf o a b).filterMap Application.failure? := by
  cases a with
  | none => rfl
  | some a => cases b with
    | none => rfl
    | some b =>
        cases h : o.apply a b with
        | ok v =>
            have hnone : Application.failure? ⟨o, a, b⟩ = none :=
              Application.failure?_eq_none_iff.mpr ⟨v, h⟩
            rw [failureOf_of_ok h, applicationOf, List.filterMap_cons_none hnone, List.filterMap_nil]
        | error f =>
            have hsome : Application.failure? ⟨o, a, b⟩ = some f :=
              Application.failure?_eq_some_iff.mpr h
            rw [failureOf_of_error h, applicationOf, List.filterMap_cons_some hsome,
              List.filterMap_nil]

/-- The failures of a tier are those of its applications. -/
theorem failures_eq_filterMap (t : Tier) (x : Tree) :
    x.failures t = (x.applicationsOf t).filterMap Application.failure? := by
  induction x with
  | number d => rfl
  | node o l r ihl ihr =>
      rw [failures, applicationsOf, List.filterMap_append, List.filterMap_append, ihl, ihr]
      split
      · rw [failureOf_eq]
      · rw [List.filterMap_nil]

/-- **The failure that comes first** is that of an application before which all come to values. -/
theorem firstFailure?_eq_some_iff {x : Tree} {f : Failure} :
    x.firstFailure? = some f ↔ ∃ before p after, x.applications = before ++ p :: after ∧
      (∀ q ∈ before, ∃ v, q.outcome = .ok v) ∧ p.outcome = .error f := by
  rw [firstFailure?, failures_eq_filterMap, failures_eq_filterMap, failures_eq_filterMap,
    ← List.filterMap_append, ← List.filterMap_append, ← applications, List.head?_filterMap,
    List.findSome?_eq_some_iff]
  constructor
  · rintro ⟨before, p, after, happ, hp, hbefore⟩
    exact ⟨before, p, after, happ, fun q hq => Application.failure?_eq_none_iff.mp (hbefore q hq),
      Application.failure?_eq_some_iff.mp hp⟩
  · rintro ⟨before, p, after, happ, hbefore, hp⟩
    exact ⟨before, p, after, happ, Application.failure?_eq_some_iff.mpr hp,
      fun q hq => Application.failure?_eq_none_iff.mpr (hbefore q hq)⟩

/-- A tree that binds more tightly than powers do is a number. -/
theorem eq_number_of_bindsAtLeast {x : Tree} (h : x.BindsAtLeast (Tier.powers.rank + 1)) :
    ∃ d, x = .number d := by
  cases x with
  | number d => exact ⟨d, rfl⟩
  | node o l r =>
      exfalso
      have hrank : Tier.powers.rank + 1 ≤ o.tier.rank := h
      revert hrank
      cases o <;> decide

/-- The exponents of a tree that is grouped by precedence are numbers of its chain. -/
theorem IsGrouped.right_mem_values {x : Tree} (hx : x.IsGrouped) {t : Tier} {p : Application}
    (hp : p ∈ x.applicationsOf t) (ho : p.operator = .pow) : p.right ∈ x.toChain.values := by
  induction hx with
  | number d => cases hp
  | @node o l r left right atLeft atRight ihl ihr =>
      rw [toChain_node, Chain.values, List.map_append, List.map_cons]
      rw [applicationsOf] at hp
      rcases List.mem_append.mp hp with hp | hp
      · rcases List.mem_append.mp hp with hp | hp
        · rcases List.mem_cons.mp (ihl hp) with h | h
          · rw [h]; exact List.mem_cons_self
          · exact List.mem_cons_of_mem _ (List.mem_append_left _ h)
        · split at hp
          · obtain ⟨a, b, hl, hr, rfl⟩ := mem_applicationOf_iff.mp hp
            have hpow : o = .pow := ho
            subst hpow
            obtain ⟨d, rfl⟩ := eq_number_of_bindsAtLeast atRight
            cases hr
            simp [toChain]
          · cases hp
      · rcases List.mem_cons.mp (ihr hp) with h | h
        · rw [h]; simp
        · simp [h]

end Tree

/-! ### Conversions -/

/-- Whether a number is longer than what is converted. -/
def IsLongNumber (n : Nat) : Prop := 10 ^ Numeral.maxDigits ≤ n

/-- Whether a quotient meets a number that is too long to be converted: one of its operands, or its own
coefficient. -/
def HasLongQuotient (a b : Decimal) : Prop :=
  IsLongNumber a.coefficient.natAbs ∨ IsLongNumber b.coefficient.natAbs ∨
    IsLongNumber (Decimal.quotientCoefficient quotientPlaces a b).natAbs

theorem maxDigits_lt_length_iff {n : Nat} :
    Numeral.maxDigits < Numeral.length n ↔ IsLongNumber n := by
  have hle : Numeral.length n ≤ Numeral.maxDigits ↔ n < 10 ^ Numeral.maxDigits :=
    Numeral.length_le_iff (Nat.succ_pos _)
  rw [← Nat.not_le, hle, Nat.not_lt, IsLongNumber]

/-- A numeral is read unless it is too long. -/
theorem checkReadable_cases (n : Nat) :
    (IsLongNumber n ∧ ∃ e, Numeral.checkReadable n = .error e) ∨
      (¬ IsLongNumber n ∧ Numeral.checkReadable n = .ok ()) := by
  rw [Numeral.checkReadable, ← maxDigits_lt_length_iff]
  split
  · next h => exact .inl ⟨h, _, rfl⟩
  · next h => exact .inr ⟨h, rfl⟩

/-- A number is written unless it is too long. -/
theorem checkWritable_cases (n : Nat) :
    (IsLongNumber n ∧ ∃ e, Numeral.checkWritable n = .error e) ∨
      (¬ IsLongNumber n ∧ Numeral.checkWritable n = .ok ()) := by
  rw [Numeral.checkWritable, ← maxDigits_lt_length_iff]
  split
  · next h => exact .inl ⟨h, _, rfl⟩
  · next h => exact .inr ⟨h, rfl⟩

/-- A quotient fails exactly when it meets a number that is too long; otherwise it has the coefficient
that is worked out for it. -/
theorem quotient_cases (a : Decimal) {b : Decimal} (h0 : b.isZero = false) :
    (HasLongQuotient a b ∧ ∃ e, quotient a b = .error (.conversion e)) ∨
      (¬ HasLongQuotient a b ∧ quotient a b = .ok (Decimal.quotient quotientPlaces a b)) := by
  rw [quotient, h0]
  rcases checkReadable_cases a.coefficient.natAbs with ⟨ha, e, hcheck⟩ | ⟨ha, hcheck⟩
  · rw [hcheck]
    exact .inl ⟨.inl ha, e, rfl⟩
  rw [hcheck]
  rcases checkReadable_cases b.coefficient.natAbs with ⟨hb, e, hcheck⟩ | ⟨hb, hcheck⟩
  · rw [hcheck]
    exact .inl ⟨.inr (.inl hb), e, rfl⟩
  rw [hcheck]
  rcases checkWritable_cases (Decimal.quotientCoefficient quotientPlaces a b).natAbs with
    ⟨hq, e, hcheck⟩ | ⟨hq, hcheck⟩
  · simp only [hcheck]
    exact .inl ⟨.inr (.inr hq), e, rfl⟩
  · simp only [hcheck]
    exact .inr ⟨fun h => h.elim ha fun h => h.elim hb hq, rfl⟩

/-- One cannot be divided by zero, which is found out last. -/
theorem quotient_one_of_isZero {d : Decimal} (h : d.isZero = true) :
    quotient (.ofInt 1) d = .error .zeroDivisor := by
  have hc : d.coefficient = 0 := by simpa [Decimal.isZero] using h
  have hone : Numeral.checkReadable (Decimal.ofInt 1).coefficient.natAbs = .ok () := by decide
  have hzero : Numeral.checkReadable (0 : Int).natAbs = .ok () := by decide
  rw [quotient, h, hc, hone, hzero]
  rfl

/-- One divided by a number that is close to zero is too long to be converted. -/
theorem hasLongQuotient_one {d : Decimal} (h0 : d.isZero = false)
    (h : d.leadingExponent ≤ -(Numeral.maxDigits : Int)) : HasLongQuotient (.ofInt 1) d := by
  have hc : d.coefficient ≠ 0 := by simpa [Decimal.isZero] using h0
  have hlt := Decimal.natAbs_coefficient_lt d
  have hpos := Decimal.digitCount_pos d
  have hlead := Decimal.leadingExponent_eq d
  have hplaces : 1 ≤ quotientPlaces := by decide
  set shift : Int := 0 - d.exponent + quotientPlaces with hshift
  have hback : (-shift).toNat = 0 := by omega
  have hdividend : (1 * d.coefficient.sign * 10 ^ shift.toNat : Int).natAbs = 10 ^ shift.toNat := by
    rw [Int.natAbs_mul, Int.natAbs_mul, Int.natAbs_sign_of_ne_zero hc, Int.natAbs_pow]
    simp
  refine .inr (.inr (Nat.le_of_not_lt fun hshort => ?_))
  have hle := Decimal.natAbs_le_mul_roundHalfEven (1 * d.coefficient.sign * 10 ^ shift.toNat)
    (d := d.coefficient.natAbs * 10 ^ (-shift).toNat) (by rw [hback]; omega)
  rw [hdividend, hback, Nat.pow_zero, Nat.mul_one] at hle
  have hquotient : Decimal.quotientCoefficient quotientPlaces (.ofInt 1) d =
      Decimal.roundHalfEven (1 * d.coefficient.sign * 10 ^ shift.toNat)
        (d.coefficient.natAbs * 10 ^ (-shift).toNat) := rfl
  rw [hquotient, hback, Nat.pow_zero, Nat.mul_one] at hshort
  refine absurd hle (Nat.not_le.mpr ?_)
  calc d.coefficient.natAbs * _ ≤ d.coefficient.natAbs * 10 ^ Numeral.maxDigits :=
        Nat.mul_le_mul_left _ hshort
    _ < 10 ^ d.digitCount * 10 ^ Numeral.maxDigits :=
        Nat.mul_lt_mul_of_pos_right hlt (Nat.pow_pos (by decide))
    _ = 10 ^ (d.digitCount + Numeral.maxDigits) := (Nat.pow_add ..).symm
    _ ≤ 10 ^ shift.toNat := Nat.pow_le_pow_right (by decide) (by omega)

/-! ### Powers -/

section

variable {a : Decimal} {n : Nat}

theorem isZero_pow (h0 : a.isZero = false) (n : Nat) : (a.pow n).isZero = false := by
  have hc : a.coefficient ≠ 0 := by simpa [Decimal.isZero] using h0
  have hpow : a.coefficient ^ n ≠ 0 := Int.pow_ne_zero hc
  simpa [Decimal.isZero, Decimal.pow] using hpow

/-- So many digits can be asked for. -/
theorem powerDigits_le_maxPrecision (h : a.powerDigits n ≤ maxPowerDigits) :
    a.powerDigits n ≤ Decimal.maxPrecision :=
  Nat.le_trans h (by decide)

/-- A power of too many digits is turned down. -/
theorem naturalPower_of_lt (h : maxPowerDigits < a.powerDigits n) :
    naturalPower a n = .error (.rejected .powerTooLong) := if_pos h

theorem naturalPower_of_isZero (h0 : a.isZero = true) (h : a.powerDigits n ≤ maxPowerDigits) :
    naturalPower a n = .ok (.ofInt 0) := by
  rw [naturalPower, if_neg (Nat.not_lt.mpr h),
    Decimal.natPower_of_isZero h0 (powerDigits_le_maxPrecision h)]
  rfl

/-- Any other power loses the digits below the lowest place. -/
theorem naturalPower_of_le (h0 : a.isZero = false) (h : a.powerDigits n ≤ maxPowerDigits)
    (hmax : (a.pow n).leadingExponent ≤ Decimal.maxLeadingExponent) :
    naturalPower a n = .ok ((a.pow n).placed (a.powerDigits n)) := by
  rw [naturalPower, if_neg (Nat.not_lt.mpr h),
    Decimal.natPower_of_le h0 (powerDigits_le_maxPrecision h) hmax]
  rfl

/-- A power that stands too high has no place. -/
theorem naturalPower_of_overflow (h0 : a.isZero = false) (h : a.powerDigits n ≤ maxPowerDigits)
    (hmax : Decimal.maxLeadingExponent < (a.pow n).leadingExponent) :
    naturalPower a n = .error (.arithmetic .overflow) := by
  rw [naturalPower, if_neg (Nat.not_lt.mpr h),
    Decimal.natPower_of_overflow h0 (powerDigits_le_maxPrecision h) (isZero_pow h0 n) hmax]
  rfl

/-- A power of a number without a positive exponent does not stand too high. -/
theorem leadingExponent_pow_le (ha : a.exponent ≤ 0) (h : a.powerDigits n ≤ maxPowerDigits) :
    (a.pow n).leadingExponent ≤ Decimal.maxLeadingExponent :=
  Decimal.leadingExponent_le_of_exponent_nonpos
    (Int.mul_nonpos_of_nonpos_of_nonneg ha (Int.natCast_nonneg n))
    (Decimal.digitCount_pow_le_powerDigits a n) (powerDigits_le_maxPrecision h)

/-- A power that would have digits below the lowest place is close to zero. -/
theorem leadingExponent_lt_of_exponent_lt {d : Decimal} {k : Nat} (hk : d.digitCount ≤ k)
    (h : d.exponent ≤ Decimal.lowestPlace k) : d.leadingExponent ≤ -(Numeral.maxDigits : Int) := by
  have hplace : Decimal.lowestPlace k = Decimal.minLeadingExponent - k + 1 := rfl
  have hbound : Decimal.minLeadingExponent ≤ -(Numeral.maxDigits : Int) := by decide
  rw [Decimal.leadingExponent_eq]
  omega

/-- **One divided by a power** is too long to be converted if digits of the power are lost: what is left
of it is too close to zero, or zero. -/
theorem quotient_one_placed_of_lt (h0 : a.isZero = false)
    (hlow : (a.pow n).exponent < Decimal.lowestPlace (a.powerDigits n)) :
    HasLongQuotient (.ofInt 1) (a.pow n) ∧
      ∃ f, f.isFault = true ∧
        quotient (.ofInt 1) ((a.pow n).placed (a.powerDigits n)) = .error f := by
  have hdigits := Decimal.digitCount_pow_le_powerDigits a n
  refine ⟨hasLongQuotient_one (isZero_pow h0 n)
    (leadingExponent_lt_of_exponent_lt hdigits (Int.le_of_lt hlow)), ?_⟩
  have hplaced : ((a.pow n).placed (a.powerDigits n)).exponent = Decimal.lowestPlace (a.powerDigits n) := by
    rw [Decimal.placed_of_lt hlow]
    rfl
  have hclose := leadingExponent_lt_of_exponent_lt (Decimal.digitCount_placed_le hdigits)
    (Int.le_of_eq hplaced)
  cases hzero : ((a.pow n).placed (a.powerDigits n)).isZero with
  | true => exact ⟨.zeroDivisor, rfl, quotient_one_of_isZero hzero⟩
  | false =>
      rcases quotient_cases (.ofInt 1) hzero with ⟨-, e, he⟩ | ⟨hshort, -⟩
      · exact ⟨_, rfl, he⟩
      · exact absurd (hasLongQuotient_one hzero hclose) hshort

/-- A power of a number without a positive exponent comes to a value unless it is turned down. -/
theorem naturalPower_of_exponent_nonpos (ha : a.exponent ≤ 0) (n : Nat) :
    naturalPower a n = .error (.rejected .powerTooLong) ∨ ∃ v, naturalPower a n = .ok v := by
  by_cases hdigits : maxPowerDigits < a.powerDigits n
  · exact .inl (naturalPower_of_lt hdigits)
  have hshort : a.powerDigits n ≤ maxPowerDigits := Nat.le_of_not_lt hdigits
  cases h0 : a.isZero with
  | true => exact .inr ⟨_, naturalPower_of_isZero h0 hshort⟩
  | false => exact .inr ⟨_, naturalPower_of_le h0 hshort (leadingExponent_pow_le ha hshort)⟩

/-- So does one divided by it, if that is not too long to be converted. -/
theorem reciprocal_of_exponent_nonpos (h0 : a.isZero = false) (ha : a.exponent ≤ 0)
    (h : a.powerDigits n ≤ maxPowerDigits → ¬ HasLongQuotient (.ofInt 1) (a.pow n)) :
    (naturalPower a n).bind (quotient (.ofInt 1)) = .error (.rejected .powerTooLong) ∨
      ∃ v, (naturalPower a n).bind (quotient (.ofInt 1)) = .ok v := by
  by_cases hdigits : maxPowerDigits < a.powerDigits n
  · exact .inl (bind_of_eq_error (naturalPower_of_lt hdigits) _)
  have hshort : a.powerDigits n ≤ maxPowerDigits := Nat.le_of_not_lt hdigits
  -- if digits of the power were lost, the quotient would be too long
  have hlow : Decimal.lowestPlace (a.powerDigits n) ≤ (a.pow n).exponent :=
    Int.not_lt.mp fun hlt => h hshort (quotient_one_placed_of_lt h0 hlt).1
  rw [bind_of_eq_ok (naturalPower_of_le h0 hshort (leadingExponent_pow_le ha hshort)),
    Decimal.placed_eq_self hlow]
  rcases quotient_cases (.ofInt 1) (isZero_pow h0 n) with ⟨hlong, -⟩ | ⟨-, hvalue⟩
  · exact absurd hlong (h hshort)
  · exact .inr ⟨_, hvalue⟩

end

/-- A positive whole number is taken for a natural one. What the branches are does not matter. -/
theorem bind_natCast {ε α : Type} (x : Except ε α) (f g : Nat → Except ε α) {n : Nat} (hn : 0 < n) :
    (do match ← Except.ok (n : Int) with
        | 0 => x
        | .ofNat n => f n
        | .negSucc m => g m) = f n := by
  obtain ⟨k, rfl⟩ : ∃ k, n = k + 1 := ⟨n - 1, by omega⟩
  rfl

/-- A negative whole number is taken for the magnitude below its own. -/
theorem bind_neg_natCast {ε α : Type} (x : Except ε α) (f g : Nat → Except ε α) (k : Nat) :
    (do match ← Except.ok (-(k + 1 : Nat) : Int) with
        | 0 => x
        | .ofNat n => f n
        | .negSucc m => g m) = g k := rfl

theorem power_ofInt_of_lt {a : Decimal} {m : Int} (hm : m.natAbs < 10 ^ maxLiteralDigits)
    (h : maxExponent < m.natAbs) : power a (.ofInt m) = .error (.rejected .exponentTooLarge) := by
  rw [power, wholeExponent_ofInt hm, if_pos h]
  rfl

theorem power_ofInt_zero (a : Decimal) : power a (.ofInt 0) = .ok (.ofInt 1) := by
  rw [power, wholeExponent_of_le (Nat.zero_le _)]
  rfl

theorem power_ofInt_natCast {a : Decimal} {n : Nat} (hn : 0 < n) (h : n ≤ maxExponent) :
    power a (.ofInt n) = naturalPower a n := by
  rw [power, wholeExponent_of_le (by rwa [Int.natAbs_natCast])]
  exact bind_natCast _ _ _ hn

/-- A negative exponent asks for the quotient of one and the power, unless there is none. -/
theorem power_ofInt_neg {a : Decimal} {n : Nat} (hn : 0 < n) (h : n ≤ maxExponent) :
    power a (.ofInt (-n)) =
      if a.isZero then .error (.rejected .divisionByZero)
      else (naturalPower a n).bind (quotient (.ofInt 1)) := by
  rw [power, wholeExponent_of_le (by rwa [Int.natAbs_neg, Int.natAbs_natCast])]
  obtain ⟨k, rfl⟩ : ∃ k, n = k + 1 := ⟨n - 1, by omega⟩
  exact bind_neg_natCast _ _ _ k

namespace Application

/-! ### What can go wrong -/

/-- Whether an application meets a limit below the calculator: it asks for more digits than can be asked
for, or it is a quotient, or a power with a negative exponent and hence the quotient of one and a power,
which meets a number that is too long to be converted. -/
def MeetsLimit : Application → Prop
  | ⟨.add, a, b⟩ => Decimal.maxPrecision < a.span b
  | ⟨.sub, a, b⟩ => Decimal.maxPrecision < a.span b
  | ⟨.mul, a, b⟩ => Decimal.maxPrecision < a.productDigits b
  | ⟨.mod, a, b⟩ => b.isZero = false ∧ Decimal.maxPrecision < a.remainderDigits b
  | ⟨.div, a, b⟩ => b.isZero = false ∧ HasLongQuotient a b
  | ⟨.pow, a, b⟩ => ∃ n, 0 < n ∧ n ≤ maxExponent ∧ b = .ofInt (-n) ∧ a.isZero = false ∧
      a.powerDigits n ≤ maxPowerDigits ∧ HasLongQuotient (.ofInt 1) (a.pow n)

/-- An operation on decimals that has no result fails below the calculator. -/
theorem exists_isFault_of_signal {x : Except Decimal.Signal Decimal} {signal : Decimal.Signal}
    (h : x = .error signal) :
    ∃ f : Failure, f.isFault = true ∧ x.mapError Failure.arithmetic = .error f :=
  ⟨.arithmetic signal, rfl, by rw [h]; rfl⟩

/-- One that has a result comes to it. -/
theorem exists_value_of_result {x : Except Decimal.Signal Decimal} {r : Decimal} (h : x = .ok r) :
    ∃ v, x.mapError Failure.arithmetic = .ok v :=
  ⟨r, by rw [h]; rfl⟩

/-- An application that meets a limit fails below the calculator. -/
theorem outcome_of_meetsLimit {p : Application} (h : p.MeetsLimit) :
    ∃ f, f.isFault = true ∧ p.outcome = .error f := by
  obtain ⟨o, a, b⟩ := p
  cases o with
  | add => exact exists_isFault_of_signal (Decimal.withPrecision_of_lt h)
  | sub => exact exists_isFault_of_signal (Decimal.withPrecision_of_lt h)
  | mul => exact exists_isFault_of_signal (Decimal.withPrecision_of_lt h)
  | mod =>
      obtain ⟨hb, hdigits⟩ := h
      rw [outcome, Operator.apply, if_neg (by simp [hb])]
      exact exists_isFault_of_signal (Decimal.remainder_of_lt hdigits)
  | div =>
      obtain ⟨hb, hlong⟩ := h
      rw [outcome, Operator.apply, if_neg (by simp [hb])]
      rcases quotient_cases a hb with ⟨-, e, he⟩ | ⟨hshort, -⟩
      · exact ⟨_, rfl, he⟩
      · exact absurd hlong hshort
  | pow =>
      obtain ⟨n, hn, hmax, rfl, ha, hdigits, hlong⟩ := h
      rw [outcome, Operator.apply, power_ofInt_neg hn hmax, if_neg (by simp [ha])]
      by_cases hhigh : Decimal.maxLeadingExponent < (a.pow n).leadingExponent
      · exact ⟨_, rfl, bind_of_eq_error (naturalPower_of_overflow ha hdigits hhigh) _⟩
      rw [bind_of_eq_ok (naturalPower_of_le ha hdigits (Int.not_lt.mp hhigh))]
      by_cases hlow : Decimal.lowestPlace (a.powerDigits n) ≤ (a.pow n).exponent
      · rw [Decimal.placed_eq_self hlow]
        rcases quotient_cases (.ofInt 1) (isZero_pow ha n) with ⟨-, e, he⟩ | ⟨hshort, -⟩
        · exact ⟨_, rfl, he⟩
        · exact absurd hlong hshort
      · exact (quotient_one_placed_of_lt ha (Int.not_le.mp hlow)).2

/-- A power with an exponent that is written, of a number without a positive exponent, comes to a value or
is turned down, if it meets no limit. -/
theorem outcome_pow_of_not_meetsLimit {a : Decimal} {m : Int} (hm : m.natAbs < 10 ^ maxLiteralDigits)
    (hexponent : a.exponent ≤ 0) (h : ¬ MeetsLimit ⟨.pow, a, .ofInt m⟩) :
    (∃ v, outcome ⟨.pow, a, .ofInt m⟩ = .ok v) ∨
      ∃ e, outcome ⟨.pow, a, .ofInt m⟩ = .error (.rejected e) := by
  rw [outcome, Operator.apply]
  by_cases hmax : maxExponent < m.natAbs
  · exact .inr ⟨_, power_ofInt_of_lt hm hmax⟩
  have hle : m.natAbs ≤ maxExponent := Nat.le_of_not_lt hmax
  by_cases hzero : m = 0
  · rw [hzero]
    exact .inl ⟨_, power_ofInt_zero a⟩
  have hpos : 0 < m.natAbs := Int.natAbs_pos.mpr hzero
  rcases Int.natAbs_eq m with hsign | hsign
  · rw [hsign, power_ofInt_natCast hpos hle]
    rcases naturalPower_of_exponent_nonpos hexponent m.natAbs with hlong | hvalue
    · exact .inr ⟨_, hlong⟩
    · exact .inl hvalue
  · rw [hsign, power_ofInt_neg hpos hle]
    cases h0 : a.isZero with
    | true => exact .inr ⟨_, if_pos rfl⟩
    | false =>
        have hnone : a.powerDigits m.natAbs ≤ maxPowerDigits →
            ¬ HasLongQuotient (.ofInt 1) (a.pow m.natAbs) := fun hshort hlong =>
          h ⟨m.natAbs, hpos, hle, congrArg _ hsign, h0, hshort, hlong⟩
        rcases reciprocal_of_exponent_nonpos h0 hexponent hnone with hlong | hvalue
        · exact .inr ⟨_, hlong⟩
        · exact .inl hvalue

/-- **What else can go wrong.** An application of an operator to numbers without positive exponents comes
to a value or is turned down if it meets no limit, provided that its exponent, where it has one, is
written. -/
theorem outcome_of_not_meetsLimit {p : Application} (hp : p.operator = .pow → IsWritten p.right)
    (hleft : p.left.exponent ≤ 0) (hright : p.right.exponent ≤ 0) (h : ¬ p.MeetsLimit) :
    (∃ v, p.outcome = .ok v) ∨ ∃ e, p.outcome = .error (.rejected e) := by
  obtain ⟨o, a, b⟩ := p
  cases o with
  | add =>
      exact .inl (exists_value_of_result (Decimal.sum_of_exponent_nonpos hleft (Nat.le_of_not_lt h)))
  | sub =>
      exact .inl
        (exists_value_of_result (Decimal.difference_of_exponent_nonpos hleft (Nat.le_of_not_lt h)))
  | mul =>
      exact .inl
        (exists_value_of_result (Decimal.product_of_exponent_nonpos hleft hright (Nat.le_of_not_lt h)))
  | mod =>
      rw [outcome, Operator.apply]
      cases hb : b.isZero with
      | true => exact .inr ⟨_, if_pos rfl⟩
      | false =>
          have hdigits := Nat.le_of_not_lt fun hlt => h ⟨hb, hlt⟩
          exact .inl (exists_value_of_result (Decimal.remainder_of_exponent_nonpos hleft hb hdigits))
  | div =>
      rw [outcome, Operator.apply]
      cases hb : b.isZero with
      | true => exact .inr ⟨_, if_pos rfl⟩
      | false =>
          rcases quotient_cases a hb with ⟨hlong, -⟩ | ⟨-, hvalue⟩
          · exact absurd ⟨hb, hlong⟩ h
          · exact .inl ⟨_, hvalue⟩
  | pow =>
      obtain ⟨m, rfl, hm⟩ := hp rfl
      exact outcome_pow_of_not_meetsLimit hm hleft h

end Application

end Calc

end LineShell
