import LineShell.Numeral.Digits

/-!
# Numerals

Writing whole numbers with decimal digits, and the bound on how long a numeral may be when it is
converted to a number or from one. The bound guards conversions only: arithmetic on numbers of any
size goes on without it.

Main statements: `length_le_iff` (how many digits a number has) and `read_eq_ok` (which numerals can
be read).
-/

namespace LineShell

namespace Numeral

/-- The longest numeral that is converted, in digits. -/
def maxDigits : Nat := 4300

/-- A conversion that the bound forbids. -/
inductive LimitError where
  /-- A numeral of so many digits was to be read. -/
  | reading (digits : Nat)
  /-- A number was to be written with too many digits. -/
  | writing
deriving DecidableEq, Repr

/-- The wording of a refused conversion. -/
def LimitError.message : LimitError → String
  | .reading n =>
      s!"Exceeds the limit ({maxDigits} digits) for integer string conversion: value has {n} digits; " ++
        "use sys.set_int_max_str_digits() to increase the limit"
  | .writing =>
      s!"Exceeds the limit ({maxDigits} digits) for integer string conversion; " ++
        "use sys.set_int_max_str_digits() to increase the limit"

/-- Whether a number is written with so many digits. -/
def isLength (n k : Nat) : Bool := (0 < k && n < 10 ^ k) && (k == 1 || 10 ^ (k - 1) ≤ n)

/-- A number that is close below the count of digits: the binary logarithm, scaled. -/
def lengthGuess (n : Nat) : Nat := Nat.log2 n * 30103 / 100000

/-- How many digits a number is written with. A guess is tried first, which spares writing a long
number. -/
def length (n : Nat) : Nat :=
  match [lengthGuess n, lengthGuess n + 1, lengthGuess n + 2].find? (isLength n) with
  | some k => k
  | none => (digits n).length

theorem length_digits_pos (n : Nat) : 0 < (digits n).length := by
  rw [digits_eq_toDigits]
  exact Nat.length_toDigits_pos

theorem length_digits_le_iff {n k : Nat} (hk : 0 < k) : (digits n).length ≤ k ↔ n < 10 ^ k := by
  rw [digits_eq_toDigits]
  exact Nat.length_toDigits_le_iff (by decide) hk

theorem length_digits_of_isLength {n k : Nat} (h : isLength n k = true) :
    (digits n).length = k := by
  simp only [isLength, Bool.and_eq_true, Bool.or_eq_true, decide_eq_true_eq, beq_iff_eq] at h
  obtain ⟨⟨hk, hn⟩, hl⟩ := h
  have hle : (digits n).length ≤ k := (length_digits_le_iff hk).mpr hn
  have hpos : 0 < (digits n).length := length_digits_pos n
  rcases hl with rfl | hl
  · omega
  · by_cases h1 : k = 1
    · omega
    · have hk' : 0 < k - 1 := by omega
      have : ¬ (digits n).length ≤ k - 1 := fun h' =>
        absurd ((length_digits_le_iff hk').mp h') (by omega)
      omega

theorem length_eq_length_digits (n : Nat) : length n = (digits n).length := by
  unfold length
  split
  · next k h => exact (length_digits_of_isLength (List.find?_some h)).symm
  · rfl

/-- A number has at most `k` digits exactly when it lies below the `k`-th power of ten. -/
theorem length_le_iff {n k : Nat} (hk : 0 < k) : length n ≤ k ↔ n < 10 ^ k := by
  rw [length_eq_length_digits]
  exact length_digits_le_iff hk

theorem length_pos (n : Nat) : 0 < length n := by
  rw [length_eq_length_digits]
  exact length_digits_pos n

theorem lt_pow_length (n : Nat) : n < 10 ^ length n :=
  (length_le_iff (length_pos n)).mp (Nat.le_refl _)

/-- A greater number is not shorter. -/
theorem length_mono {m n : Nat} (h : m ≤ n) : length m ≤ length n :=
  (length_le_iff (length_pos n)).mpr (Nat.lt_of_le_of_lt h (lt_pow_length n))

/-- A number other than zero has a leading digit other than zero. -/
theorem pow_length_sub_one_le {n : Nat} (h : n ≠ 0) : 10 ^ (length n - 1) ≤ n := by
  by_cases h1 : length n = 1
  · rw [h1]
    simp only [Nat.sub_self, Nat.pow_zero]
    omega
  · have hk : 0 < length n - 1 := by have := length_pos n; omega
    by_cases hlt : n < 10 ^ (length n - 1)
    · have := (length_le_iff hk).mpr hlt
      omega
    · omega

/-- Reading a text of digits as a number; leading zeros count towards the bound. -/
def read (cs : List Char) : Except LimitError Nat :=
  if maxDigits < cs.length then .error (.reading cs.length) else .ok (ofDigits cs)

/-- The numeral of a number can be read up to the bound. -/
def checkReadable (n : Nat) : Except LimitError Unit :=
  if maxDigits < length n then .error (.reading (length n)) else .ok ()

/-- Writing is possible up to the bound. -/
def checkWritable (n : Nat) : Except LimitError Unit :=
  if maxDigits < length n then .error .writing else .ok ()

/-- A number without more digits than the bound can be read, whatever its leading zeros. -/
theorem read_eq_ok {cs : List Char} (h : cs.length ≤ maxDigits) : read cs = .ok (ofDigits cs) := by
  rw [read, if_neg (by omega)]

end Numeral

end LineShell
