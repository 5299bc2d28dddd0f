import LineShell.Calc.Evaluate
import LineShell.Proofs.Calc.Reading

/-!
# Exponents

An exponent is judged by its leading digits. The operands of a chain are whole numbers of at most
`maxLiteralDigits` digits (`natAbs_of_mem_values`), and of such numbers the leading digits say enough:
none is beyond comparison, and the cut neither hides an exponent that is too large nor makes one.

**Main statement** (`wholeExponent_ofInt`): an exponent that is written as a numeral is too large exactly
when its magnitude exceeds `maxExponent`, and stands for itself otherwise.
-/

namespace LineShell

/-! ### The size of a numeral -/

/-- Digits write a number that lies below the power of ten of their count. -/
theorem ofDigitValues_lt {ds : List Nat} (h : ∀ d ∈ ds, d ≤ 9) :
    ofDigitValues ds < 10 ^ ds.length := by
  have hfold : ∀ (es : List Nat) (n : Nat), (∀ d ∈ es, d ≤ 9) →
      es.foldl (fun n d => 10 * n + d) n < (n + 1) * 10 ^ es.length := by
    intro es
    induction es with
    | nil => intro n _; simp
    | cons d es ih =>
        intro n hes
        have hd : d ≤ 9 := hes d List.mem_cons_self
        have hrest := ih (10 * n + d) fun e he => hes e (List.mem_cons_of_mem _ he)
        rw [List.foldl_cons, List.length_cons, Nat.pow_succ']
        calc _ < (10 * n + d + 1) * 10 ^ es.length := hrest
          _ ≤ ((n + 1) * 10) * 10 ^ es.length := Nat.mul_le_mul_right _ (by omega)
          _ = (n + 1) * (10 * 10 ^ es.length) := Nat.mul_assoc ..
  simpa [ofDigitValues] using hfold ds 0 h

/-- A text of digits writes a number that lies below the power of ten of its length. -/
theorem ofDigits_lt (cs : List Char) : ofDigits cs < 10 ^ cs.length := by
  have hdigits : ∀ d ∈ cs.map fun c => (digitValue? c).getD 0, d ≤ 9 := by
    intro d hd
    obtain ⟨c, -, rfl⟩ := List.mem_map.mp hd
    cases hc : digitValue? c with
    | none => exact Nat.zero_le _
    | some d => exact digitValue?_le_nine hc
  have hlt := ofDigitValues_lt hdigits
  rwa [List.length_map] at hlt

namespace Calc

/-- The sign of a numeral does not matter to its size. -/
theorem Literal.natAbs_toInt_lt (n : Literal) : n.toInt.natAbs < 10 ^ n.digits.length := by
  have hlt := ofDigits_lt n.digits
  rw [Literal.toInt]
  split <;> simpa using hlt

/-- Whether a number can be written in an expression. -/
def IsWritten (d : Decimal) : Prop :=
  ∃ m : Int, d = .ofInt m ∧ m.natAbs < 10 ^ maxLiteralDigits

/-- Tokens that pass the check have short numerals. -/
theorem isWritten_of_checkTokens {ts : List Token} (h : checkTokens ts = .ok ()) {n : Literal}
    (hn : .number n ∈ ts) : IsWritten n.value := by
  have hlength : n.digits.length ≤ maxLiteralDigits := (checkTokens_eq_ok_iff.mp h).2 n hn
  exact ⟨n.toInt, rfl, Nat.lt_of_lt_of_le n.natAbs_toInt_lt
    (Nat.pow_le_pow_right (by decide) hlength)⟩

/-- The operands behind operators are those of numerals. -/
theorem exists_number_of_mem_links {ts : List Token} {links : List (Operator × Decimal)}
    (h : linksOfTokens ts = .ok links) {p : Operator × Decimal} (hp : p ∈ links) :
    ∃ n : Literal, .number n ∈ ts ∧ n.value = p.2 := by
  induction links generalizing ts with
  | nil => cases hp
  | cons q links ih =>
      obtain ⟨n, us, rfl, hvalue, hrest⟩ := linksOfTokens_eq_ok_cons_iff.mp h
      rcases List.mem_cons.mp hp with rfl | hp
      · exact ⟨n, by simp, hvalue⟩
      · obtain ⟨m, hm, hmvalue⟩ := ih hrest hp
        exact ⟨m, by simp [hm], hmvalue⟩

/-- **The operands of an expression** are whole numbers without many digits. -/
theorem isWritten_of_mem_values {text : String} {c : Chain} (h : chainOf text = .ok c) :
    ∀ d ∈ c.values, IsWritten d := by
  rw [chainOf] at h
  cases hcheck : checkTokens (tokens text) with
  | error e => rw [hcheck] at h; cases h
  | ok _ =>
      rw [hcheck] at h
      obtain ⟨n, us, hts, hfirst, hrest⟩ := Chain.ofTokens_eq_ok_iff.mp h
      intro d hd
      rcases List.mem_cons.mp hd with rfl | hd
      · rw [← hfirst]
        exact isWritten_of_checkTokens hcheck (by simp [hts])
      · obtain ⟨p, hp, rfl⟩ := List.mem_map.mp hd
        obtain ⟨m, hm, hvalue⟩ := exists_number_of_mem_links hrest hp
        rw [← hvalue]
        exact isWritten_of_checkTokens hcheck (by simp [hts, hm])

end Calc

/-! ### Rounding to leading digits -/

namespace Decimal

/-- A cut to leading digits raises the leading digit by one place at most. -/
theorem leadingExponent_roundDigits_le (k : Nat) (d : Decimal) :
    (d.roundDigits k).leadingExponent ≤ d.leadingExponent + 1 := by
  have hpos := digitCount_pos d
  have hsplit : d.digitCount - k + (d.digitCount - (d.digitCount - k)) = d.digitCount := by omega
  have hlt : d.coefficient.natAbs <
      10 ^ (d.digitCount - k) * 10 ^ (d.digitCount - (d.digitCount - k)) := by
    rw [← Nat.pow_add, hsplit]
    exact natAbs_coefficient_lt d
  have hle := natAbs_roundHalfEven_le (Nat.pow_pos (by decide)) hlt
  have hcount : (d.roundDigits k).digitCount ≤ d.digitCount - (d.digitCount - k) + 1 := by
    refine (Numeral.length_le_iff (Nat.succ_pos _)).mpr ?_
    exact Nat.lt_of_le_of_lt hle (Nat.pow_lt_pow_right (by decide) (Nat.lt_succ_self _))
  have hround : (d.roundDigits k).exponent = d.exponent + (d.digitCount - k : Nat) := rfl
  rw [leadingExponent_eq, leadingExponent_eq, hround]
  omega

/-- A cut to leading digits leaves a whole number above a bound that is much shorter than the cut. -/
theorem exists_roundDigits_ofInt {k b n : Nat} (hb : b + 1 < 10 ^ (k - 1)) (hn : b < n) :
    ∃ q e : Nat, (ofInt n).roundDigits k = ⟨q, e⟩ ∧ b ≤ q ∧ b < q * 10 ^ e := by
  by_cases hshort : (ofInt n).digitCount ≤ k
  · exact ⟨n, 0, roundDigits_of_le hshort, Nat.le_of_lt hn, by omega⟩
  · have hcount : (ofInt n).digitCount = Numeral.length n := rfl
    have hk : k - 1 + (Numeral.length n - k) = Numeral.length n - 1 := by
      have hk0 : k ≠ 0 := by rintro rfl; simp at hb
      omega
    have hpos : 0 < 10 ^ (Numeral.length n - k) := Nat.pow_pos (by decide)
    have hlow : 10 ^ (k - 1) * 10 ^ (Numeral.length n - k) ≤ n := by
      rw [← Nat.pow_add, hk]
      exact Numeral.pow_length_sub_one_le (by omega)
    have herror := le_mul_roundHalfEven (n := n) hpos
    generalize hq : roundHalfEven n (10 ^ (Numeral.length n - k)) = q at herror
    generalize hd : 10 ^ (Numeral.length n - k) = d at hlow herror hpos
    -- In units of the last place that is kept, `q` is no more than one below the power of ten.
    have hmany : (10 ^ (k - 1) : Nat) * (d : Int) ≤ d * q + d := by
      have := Int.ofNat_le.mpr hlow
      rw [Int.natCast_mul] at this
      omega
    have hone : ((10 ^ (k - 1) : Nat) : Int) ≤ q + 1 := by
      refine Int.le_of_mul_le_mul_right ?_ (Int.natCast_pos.mpr hpos)
      calc _ ≤ d * q + d := hmany
        _ = (q + 1) * d := by rw [Int.add_mul, Int.one_mul, Int.mul_comm]
    have hbq : b < q.toNat := by omega
    refine ⟨q.toNat, Numeral.length n - k, ?_, Nat.le_of_lt hbq, ?_⟩
    · rw [roundDigits, hcount]
      simp only [ofInt]
      rw [hq]
      congr 1
      · omega
      · omega
    · rw [hd]
      exact Nat.lt_of_lt_of_le hbq (Nat.le_mul_of_pos_right _ hpos)

/-- Numbers with exponents that are not negative are compared as whole numbers. -/
theorem lt_ofInt_iff {b q e : Nat} : lt (ofInt b) ⟨q, e⟩ = true ↔ b < q * 10 ^ e := by
  have he : commonExponent ⟨q, e⟩ (ofInt b) = 0 := by
    show min (e : Int) 0 = 0
    omega
  have hq : scaled 0 ⟨q, e⟩ = ((q * 10 ^ e : Nat) : Int) := by
    rw [scaled_eq_mul]
    simp
  have hb : scaled 0 (ofInt b) = (b : Int) := scaled_exponent (ofInt b)
  rw [lt, le, he, hq, hb]
  simp only [Bool.not_eq_true', decide_eq_false_iff_not]
  omega

end Decimal

namespace Calc

open Decimal

/-! ### Exponents that are written -/

/-- An exponent that is written is not beyond comparison. -/
theorem leadingExponent_roundDigits_le_maxComparedExponent {d : Decimal} (h : IsWritten d) :
    (d.roundDigits comparedDigits).leadingExponent ≤ maxComparedExponent := by
  obtain ⟨m, rfl, hm⟩ := h
  have hcount : (ofInt m).digitCount ≤ maxLiteralDigits :=
    (Numeral.length_le_iff (by decide)).mpr hm
  have hround := leadingExponent_roundDigits_le comparedDigits (ofInt m)
  have hlead : (ofInt m).leadingExponent = (ofInt m).digitCount - 1 := by
    rw [leadingExponent_eq]
    simp [ofInt]
  have hbound : (maxLiteralDigits : Int) ≤ maxComparedExponent := by decide
  omega

/-- A whole number is too large an exponent exactly when its magnitude exceeds the bound. -/
theorem exponentIsTooLarge_ofInt (m : Int) :
    exponentIsTooLarge (.ofInt m) = true ↔ maxExponent < m.natAbs := by
  have hbound : maxExponent + 1 < 10 ^ (comparedDigits - 1) := by decide
  have habs : (ofInt m).abs = ofInt m.natAbs := rfl
  rw [exponentIsTooLarge, habs, Bool.and_eq_true, decide_eq_true_eq]
  constructor
  · rintro ⟨-, hlt⟩
    refine Nat.lt_of_not_le fun hle => ?_
    have hshort : (ofInt m.natAbs).roundDigits comparedDigits = ⟨m.natAbs, (0 : Nat)⟩ :=
      roundDigits_of_lt (by decide) (Nat.lt_of_le_of_lt hle (by decide))
    rw [hshort, lt_ofInt_iff] at hlt
    omega
  · intro hlt
    obtain ⟨q, e, hcut, hq, hmul⟩ := exists_roundDigits_ofInt hbound hlt
    rw [hcut, lt_ofInt_iff]
    refine ⟨?_, hmul⟩
    have hlength := Numeral.length_mono hq
    have hlead : (ofInt maxExponent).leadingExponent = 0 + Numeral.length maxExponent - 1 := rfl
    have hleadq : leadingExponent ⟨q, e⟩ = e + Numeral.length q - 1 := rfl
    omega

/-- **What an exponent comes to** that is written as a numeral. -/
theorem wholeExponent_ofInt {m : Int} (h : m.natAbs < 10 ^ maxLiteralDigits) :
    wholeExponent (.ofInt m) =
      if maxExponent < m.natAbs then .error (.rejected .exponentTooLarge) else .ok m := by
  have hcompared := leadingExponent_roundDigits_le_maxComparedExponent ⟨m, rfl, h⟩
  have htruncate : (ofInt m).truncate = m := by
    rw [truncate_eq_tdiv]
    simp [ofInt]
  rw [wholeExponent, if_neg (by simp; omega), htruncate]
  by_cases hlarge : maxExponent < m.natAbs
  · rw [if_pos hlarge, if_pos ((exponentIsTooLarge_ofInt m).mpr hlarge)]
  · rw [if_neg hlarge, if_neg (mt (exponentIsTooLarge_ofInt m).mp hlarge)]

/-- An exponent within the bound stands for itself. -/
theorem wholeExponent_of_le {m : Int} (h : m.natAbs ≤ maxExponent) :
    wholeExponent (.ofInt m) = .ok m := by
  have hwritten : maxExponent < 10 ^ maxLiteralDigits :=
    Nat.lt_of_lt_of_le (m := 10 ^ 4) (by decide) (Nat.pow_le_pow_right (by decide) (by decide))
  rw [wholeExponent_ofInt (Nat.lt_of_le_of_lt h hwritten), if_neg (Nat.not_lt.mpr h)]

end Calc

end LineShell
