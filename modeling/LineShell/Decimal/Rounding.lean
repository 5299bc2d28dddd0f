import LineShell.Decimal.Basic

/-!
# Rounding

A quotient of integers is rounded to the nearest integer, and a quotient half-way between two to
the even one. On this rest the cut of a number to so many leading digits and the division that
keeps a fixed number of places.

Main statements: `roundHalfEven_error_le` (the result is within one half of the quotient),
`roundHalfEven_even_of_tie` (a tie goes to the even neighbour) and `roundDigits_of_le` (a number that
is short enough stays as it is).
-/

namespace LineShell

namespace Decimal

/-- The integer nearest to `n / d`, of two the even one. -/
def roundHalfEven (n : Int) (d : Nat) : Int :=
  let q := n / d
  let r := n % d
  if 2 * r > d ∨ (2 * r = d ∧ q % 2 = 1) then q + 1 else q

/-- The result is within one half of the quotient. -/
theorem roundHalfEven_error_le (n : Int) {d : Nat} (hd : 0 < d) :
    2 * (n - d * roundHalfEven n d).natAbs ≤ d := by
  have hr := Int.emod_nonneg n (b := (d : Int)) (by omega)
  have hlt := Int.emod_lt_of_pos n (b := (d : Int)) (by omega)
  have hqr := Int.mul_ediv_add_emod n (d : Int)
  unfold roundHalfEven
  simp only []
  split
  · rw [Int.mul_add, Int.mul_one]
    omega
  · omega

/-- A tie goes to the even neighbour. -/
theorem roundHalfEven_even_of_tie {n : Int} {d : Nat} (h : 2 * (n % d) = (d : Int)) :
    roundHalfEven n d % 2 = 0 := by
  unfold roundHalfEven
  simp only []
  split <;> omega

/-- Rounding a quotient below a whole number does not pass that number. -/
theorem natAbs_roundHalfEven_le {n : Int} {d k : Nat} (hd : 0 < d) (h : n.natAbs < d * k) :
    (roundHalfEven n d).natAbs ≤ k := by
  have herror := roundHalfEven_error_le n hd
  have hprod : (d * roundHalfEven n d : Int).natAbs = d * (roundHalfEven n d).natAbs := by
    rw [Int.natAbs_mul, Int.natAbs_natCast]
  refine Nat.le_of_not_lt fun hlt => ?_
  have hnext : d * k + d ≤ d * (roundHalfEven n d).natAbs := by
    calc d * k + d = d * (k + 1) := (Nat.mul_succ d k).symm
      _ ≤ d * (roundHalfEven n d).natAbs := Nat.mul_le_mul_left d hlt
  omega

/-- A dividend is at most the divisor times one more than the rounded quotient. -/
theorem natAbs_le_mul_roundHalfEven (n : Int) {d : Nat} (hd : 0 < d) :
    n.natAbs ≤ d * ((roundHalfEven n d).natAbs + 1) := by
  have herror := roundHalfEven_error_le n hd
  have hprod : (d * roundHalfEven n d : Int).natAbs = d * (roundHalfEven n d).natAbs := by
    rw [Int.natAbs_mul, Int.natAbs_natCast]
  rw [Nat.mul_add, Nat.mul_one, ← hprod]
  omega

/-- Rounding a number that is not negative gives at least what is left when one unit is taken off. -/
theorem le_mul_roundHalfEven {n d : Nat} (hd : 0 < d) :
    (n : Int) ≤ d * roundHalfEven n d + d := by
  have herror := roundHalfEven_error_le n hd
  omega

/-- The number cut to `places` leading digits, half to even. A number that is short enough stays
as it is. -/
def roundDigits (places : Nat) (d : Decimal) : Decimal :=
  let extra := d.digitCount - places
  ⟨roundHalfEven d.coefficient (10 ^ extra), d.exponent + extra⟩

theorem roundHalfEven_one (n : Int) : roundHalfEven n 1 = n := by
  unfold roundHalfEven
  simp only []
  split <;> omega

/-- A number that is short enough stays as it is. -/
theorem roundDigits_of_le {places : Nat} {d : Decimal} (h : d.digitCount ≤ places) :
    d.roundDigits places = d := by
  have h0 : d.digitCount - places = 0 := by omega
  simp [roundDigits, h0, roundHalfEven_one]

/-- The nearest multiple of `10 ^ -places` to the quotient, as a coefficient: the dividend is
scaled so that one division of integers, and one rounding, gives it. -/
def quotientCoefficient (places : Nat) (a b : Decimal) : Int :=
  let shift := a.exponent - b.exponent + places
  let n := a.coefficient * b.coefficient.sign * 10 ^ shift.toNat
  roundHalfEven n (b.coefficient.natAbs * 10 ^ (-shift).toNat)

/-- The nearest multiple of `10 ^ -places` to the quotient, half to even. -/
def quotient (places : Nat) (a b : Decimal) : Decimal :=
  ⟨quotientCoefficient places a b, -places⟩

end Decimal

end LineShell
