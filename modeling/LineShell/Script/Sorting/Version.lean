import LineShell.Script.Octets

/-!
# The order of versions

Names that end in a number are wanted in the order of the numbers, `file9` before `file10`. A text is
taken as stretches of other characters and of digits in turn. Stretches of digits are compared as
numbers; of other characters a tilde comes before the end, the end before a letter, and a letter
before the rest. Endings like those of file names count only where all that is before them is alike.

Main statement: `compareVersions_self`, by which a text stands neither before nor behind itself.
-/

namespace LineShell

namespace Script

namespace Sorting

/-! ### Stretches -/

/-- The rank of the character with which a text begins. -/
def versionRank : Octets → Int
  | [] => -1
  | c :: _ =>
      if isAsciiDigit c then 0
      else if c.isAlpha then c.toNat
      else if c = '~' then -2
      else c.toNat + 256

/-- Whether a text begins with a character that is no digit. -/
def startsOther : Octets → Bool
  | [] => false
  | c :: _ => !isAsciiDigit c

/-- How two stretches of digits stand to one another as numbers: without the zeros in front the longer
one is the greater. -/
def compareDigits (a b : Octets) : Ordering :=
  let a := a.dropWhile (· == '0')
  let b := b.dropWhile (· == '0')
  (compare a.length b.length).then (compareOctets a b)

/-- A text that begins with a digit is longer than what is behind its digits. -/
theorem length_dropWhile_lt {cs : Octets} (h : cs ≠ []) (hs : startsOther cs = false) :
    (cs.dropWhile isAsciiDigit).length < cs.length := by
  cases cs with
  | nil => exact absurd rfl h
  | cons c cs =>
    have hc : isAsciiDigit c = true := by simpa [startsOther] using hs
    have hl := (List.dropWhile_suffix (l := cs) isAsciiDigit).length_le
    simp [hc]
    omega

/-- What is behind the digits of a text is no longer than the text. -/
theorem length_dropWhile_le (cs : Octets) :
    (cs.dropWhile isAsciiDigit).length ≤ cs.length :=
  (List.dropWhile_suffix isAsciiDigit).length_le

/-- How two texts stand to one another, stretch by stretch. -/
def compareStretches (a b : Octets) : Ordering :=
  if a.isEmpty && b.isEmpty then .eq
  else if startsOther a || startsOther b then
    (compare (versionRank a) (versionRank b)).then (compareStretches (a.drop 1) (b.drop 1))
  else
    (compareDigits (a.takeWhile isAsciiDigit) (b.takeWhile isAsciiDigit)).then
      (compareStretches (a.dropWhile isAsciiDigit) (b.dropWhile isAsciiDigit))
termination_by a.length + b.length
decreasing_by
  · cases a <;> cases b <;> simp_all
    omega
  · next h hs =>
    simp only [Bool.or_eq_true, not_or, Bool.not_eq_true] at hs
    have ha := length_dropWhile_le a
    have hb := length_dropWhile_le b
    by_cases he : a = []
    · have hne : b ≠ [] := by
        rintro rfl
        simp [he] at h
      have := length_dropWhile_lt hne hs.2
      omega
    · have := length_dropWhile_lt he hs.1
      omega

/-- A text stands neither before nor behind itself. -/
theorem compareStretches_self (a : Octets) : compareStretches a a = .eq := by
  induction h : a.length using Nat.strongRecOn generalizing a with
  | ind n ih =>
    unfold compareStretches
    split
    · rfl
    · next he =>
      have hne : a ≠ [] := by
        rintro rfl
        simp at he
      have hpos := List.length_pos_iff.mpr hne
      split
      · have hr : compare (versionRank a) (versionRank a) = .eq := by simp [compare, compareOfLessAndEq]
        rw [hr, ih (a.drop 1).length (by rw [List.length_drop]; omega) _ rfl]
        rfl
      · next hs =>
        have hs' : startsOther a = false := by
          cases hq : startsOther a <;> simp_all
        rw [ih (a.dropWhile isAsciiDigit).length (h ▸ length_dropWhile_lt hne hs') _ rfl]
        simp [compareDigits]

/-! ### Endings -/

/-- Whether a character goes on with an ending. -/
def isEndingChar (c : Char) : Bool := c.isAlphanum || c == '~'

/-- Whether a text consists of endings: points with letters, digits and tildes behind them, of which
the first is no digit. -/
def isEndings : Octets → Bool
  | [] => true
  | '.' :: c :: cs => (c.isAlpha || c == '~') && isEndings (cs.dropWhile isEndingChar)
  | _ => false
termination_by cs => cs.length
decreasing_by
  have := (List.dropWhile_suffix (l := cs) isEndingChar).length_le
  simp
  omega

/-- A text without the endings behind it; its first character is always left. -/
def withoutEndings : Octets → Octets
  | [] => []
  | c :: cs => c :: dropEndings cs
where
  /-- What is before the endings. -/
  dropEndings : Octets → Octets
    | [] => []
    | c :: cs => if isEndings (c :: cs) then [] else c :: dropEndings cs

/-- The rank of a text as a whole: nothing, the names of a directory and of the one above it, hidden
names, and other names. -/
def nameRank (cs : Octets) : Nat :=
  if cs.isEmpty then 0
  else if cs = ['.'] then 1
  else if cs = ['.', '.'] then 2
  else if cs.head? = some '.' then 3
  else 4

/-- How two texts stand to one another as names of versions. -/
def compareVersions (a b : Octets) : Ordering :=
  (compare (nameRank a) (nameRank b)).then
    ((compareStretches (withoutEndings a) (withoutEndings b)).then (compareStretches a b))

/-- A text stands neither before nor behind itself. -/
theorem compareVersions_self (a : Octets) : compareVersions a a = .eq := by
  simp [compareVersions, compareStretches_self]

end Sorting

end Script

end LineShell
