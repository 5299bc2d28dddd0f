import LineShell.Power
import LineShell.Text.Digit

/-!
# Digits of numbers

Writing a whole number with decimal digits. A long number is cut into an upper and a lower half,
which are written one after the other; so the work on long numbers is left to a few divisions.

Main statement: `digits_eq_toDigits`, by which the halves make the usual digits.
-/

namespace LineShell

namespace Numeral

/-! ### Digits by position -/

/-- The last digits of a number, so many of them. -/
def lastDigits : Nat → Nat → List Char
  | 0, _ => []
  | k + 1, n => lastDigits k (n / 10) ++ [Nat.digitChar (n % 10)]

/-- A number with more digits behind it. -/
theorem toDigits_append_lastDigits {a : Nat} (ha : 0 < a) :
    ∀ {k b : Nat}, b < 10 ^ k →
      Nat.toDigits 10 (a * 10 ^ k + b) = Nat.toDigits 10 a ++ lastDigits k b
  | 0, b, hb => by
      have : b = 0 := by
        rw [Nat.pow_zero] at hb
        omega
      simp [this, lastDigits]
  | k + 1, b, hb => by
      have hb' : b / 10 < 10 ^ k := by
        rw [Nat.pow_succ] at hb
        omega
      have hn : a * 10 ^ (k + 1) + b = 10 * (a * 10 ^ k + b / 10) + b % 10 := by
        rw [Nat.pow_succ, ← Nat.mul_assoc]
        omega
      have hpos : 0 < a * 10 ^ k + b / 10 :=
        Nat.add_pos_left (Nat.mul_pos ha (Nat.pow_pos (by decide))) _
      have hd : b % 10 < 10 := Nat.mod_lt _ (by decide)
      rw [hn, ← Nat.toDigits_append_toDigits (by decide) hpos hd,
        toDigits_append_lastDigits ha hb', Nat.toDigits_of_lt_base hd, lastDigits,
        List.append_assoc]

/-- The last digits of a number that is put together from two. -/
theorem lastDigits_add (m a : Nat) :
    ∀ {k b : Nat}, b < 10 ^ k →
      lastDigits (m + k) (a * 10 ^ k + b) = lastDigits m a ++ lastDigits k b
  | 0, b, hb => by
      have : b = 0 := by
        rw [Nat.pow_zero] at hb
        omega
      simp [this, lastDigits]
  | k + 1, b, hb => by
      have hb' : b / 10 < 10 ^ k := by
        rw [Nat.pow_succ] at hb
        omega
      have hn : a * 10 ^ (k + 1) + b = 10 * (a * 10 ^ k + b / 10) + b % 10 := by
        rw [Nat.pow_succ, ← Nat.mul_assoc]
        omega
      have hd : b % 10 < 10 := Nat.mod_lt _ (by decide)
      have hq : (a * 10 ^ (k + 1) + b) / 10 = a * 10 ^ k + b / 10 := by omega
      have hr : (a * 10 ^ (k + 1) + b) % 10 = b % 10 := by omega
      rw [← Nat.add_assoc, lastDigits, hq, hr, lastDigits_add m a hb', lastDigits,
        List.append_assoc]

/-! ### Halves -/

/-- As many of the last digits of a number as the power of two with an exponent says. -/
def block : Nat → Nat → List Char
  | 0, n => [Nat.digitChar (n % 10)]
  | k + 1, n =>
      let m := 10 ^ 2 ^ k
      block k (n / m) ++ block k (n % m)

/-- The halves make the last digits. -/
theorem block_eq_lastDigits : ∀ k n : Nat, block k n = lastDigits (2 ^ k) n
  | 0, n => rfl
  | k + 1, n => by
      have hr : n % 10 ^ 2 ^ k < 10 ^ 2 ^ k := Nat.mod_lt _ (Nat.pow_pos (by decide))
      have hn : n / 10 ^ 2 ^ k * 10 ^ 2 ^ k + n % 10 ^ 2 ^ k = n := Nat.div_add_mod' ..
      have h2 : 2 ^ (k + 1) = 2 ^ k + 2 ^ k := by omega
      rw [block, block_eq_lastDigits k, block_eq_lastDigits k, ← lastDigits_add _ _ hr, hn, h2]

/-- The digits of a number, with halves of as many digits as the powers of two with smaller
exponents say. -/
def digitsBelow : Nat → Nat → List Char
  | 0, n => Nat.toDigits 10 n
  | k + 1, n =>
      let m := 10 ^ 2 ^ k
      if n < m then digitsBelow k n else digitsBelow k (n / m) ++ block k (n % m)

/-- The exponent does not matter. -/
theorem digitsBelow_eq_toDigits : ∀ k n : Nat, digitsBelow k n = Nat.toDigits 10 n
  | 0, _ => rfl
  | k + 1, n => by
      simp only [digitsBelow]
      split
      · exact digitsBelow_eq_toDigits k n
      · next h =>
        have hm : 0 < 10 ^ 2 ^ k := Nat.pow_pos (by decide)
        have hq : 0 < n / 10 ^ 2 ^ k := Nat.div_pos (by omega) hm
        rw [digitsBelow_eq_toDigits k, block_eq_lastDigits,
          ← toDigits_append_lastDigits hq (Nat.mod_lt _ hm), Nat.div_add_mod']

/-- The decimal digits of a number, at least one. -/
def digits (n : Nat) : List Char := digitsBelow (Nat.log2 (Nat.log2 n + 1)) n

/-- The digits are the usual ones. -/
theorem digits_eq_toDigits (n : Nat) : digits n = Nat.toDigits 10 n := digitsBelow_eq_toDigits _ n

end Numeral

end LineShell
