import LineShell.Script.Octets

/-!
# Octets between quotation marks

How names are shown in diagnostics. An octet that cannot be printed is written as a letter or as three
octal digits behind a backslash, for which a text needs special quotation marks.

Main statements: `shownName_of_isPrintable` and `quoteIfNeeded_of_isPlain`, by which texts of plain
characters are shown as they are.
-/

namespace LineShell

namespace Script

/-- Whether an octet can be printed. -/
def isPrintable (c : Char) : Bool := 32 ≤ c.toNat && c.toNat < 127

/-- The letters behind a backslash that stand for octets. -/
def escapeLetters : List (Char × Char) :=
  [('\x07', 'a'), ('\x08', 'b'), ('\x0c', 'f'), ('\n', 'n'), ('\r', 'r'), ('\t', 't'), ('\x0b', 'v')]

/-- The three octal digits of an octet. -/
def octalOf (c : Char) : Octets :=
  let n := c.toNat
  [n / 64 % 8, n / 8 % 8, n % 8].map Nat.digitChar

/-- An octet behind a backslash. -/
def escapeOf (c : Char) : Octets :=
  '\\' :: match escapeLetters.lookup c with
    | some letter => [letter]
    | none => octalOf c

/-! ### Names in the extended shell -/

/-- A text with escapes between quotation marks behind a dollar sign. -/
def dollarQuoted (cs : Octets) : Octets :=
  let inner := cs.flatMap fun c =>
    if c = '\'' || c = '\\' then ['\\', c]
    else if c = '\x1b' then ['\\', 'E']
    else if isPrintable c then [c]
    else escapeOf c
  '$' :: '\'' :: inner ++ ['\'']

/-- A name as the extended shell shows it. -/
def shownName (cs : Octets) : Octets := if cs.all isPrintable then cs else dollarQuoted cs

/-- A name that can be printed is shown as it is. -/
theorem shownName_of_isPrintable {cs : Octets} (h : ∀ c ∈ cs, isPrintable c = true) :
    shownName cs = cs := by
  simp [shownName, List.all_eq_true.mpr h]

namespace Tool

/-! ### Names in the diagnostics of tools -/

/-- The octets that need no quotation marks. -/
def isPlain (c : Char) : Bool := c.isAlphanum || "%+,-./:@]_".toList.contains c

/-- Whether a text needs no quotation marks. Braces need them only if one stands alone, and two other
characters only in front. -/
def isPlainText : Octets → Bool
  | [] => false
  | ['\x7b'] => false
  | ['\x7d'] => false
  | c :: cs => (isPlain c || c == '\x7b' || c == '\x7d') &&
      cs.all fun c => isPlain c || "\x7b\x7d#~".toList.contains c

/-- Whether a text means the same between single and between double quotation marks. -/
def isDoubleText : Octets → Bool
  | [] => true
  | c :: cs => (isPlain c || " '#~".toList.contains c) &&
      cs.all fun c => isPlain c || " '".toList.contains c

/-- What follows in a quoted text, behind escapes or not. -/
def quotedFrom : Bool → Octets → Octets
  | _, [] => ['\'']
  | escaping, c :: cs =>
      if c = '\'' then "'\\''".toList ++ quotedFrom false cs
      else if isPrintable c then (if escaping then ['\'', '\'', c] else [c]) ++ quotedFrom false cs
      else (if escaping then [] else ['\'', '$', '\'']) ++ escapeOf c ++ quotedFrom true cs

/-- A name between quotation marks. If single quotation marks are in it and escapes at its end, it
begins as if it stood behind escapes. -/
def quoteAlways (cs : Octets) : Octets :=
  let hasMark := cs.contains '\''
  if hasMark && isDoubleText cs then '"' :: cs ++ ['"']
  else '\'' :: quotedFrom (hasMark && cs.getLast?.any fun c => !isPrintable c) cs

/-- A text between quotation marks that is no name: a backslash stands before what could be mistaken. -/
def quoteText (cs : Octets) : Octets :=
  '\'' :: cs.flatMap (fun c =>
    if c = '\'' || c = '\\' then ['\\', c]
    else if isPrintable c then [c]
    else escapeOf c) ++ ['\'']

/-- A name between quotation marks if it needs them. -/
def quoteIfNeeded (cs : Octets) : Octets := if isPlainText cs then cs else quoteAlways cs

/-- A text of plain characters is shown as it is. -/
theorem quoteIfNeeded_of_isPlain {cs : Octets} (h0 : cs ≠ []) (h : ∀ c ∈ cs, isPlain c = true) :
    quoteIfNeeded cs = cs := by
  suffices ht : isPlainText cs = true by simp [quoteIfNeeded, ht]
  unfold isPlainText
  split
  · exact absurd rfl h0
  · exact absurd (h '\x7b' (by simp)) (by decide)
  · exact absurd (h '\x7d' (by simp)) (by decide)
  · next c cs _ _ =>
    have hc : isPlain c = true := h c (by simp)
    have hs : ∀ d ∈ cs, isPlain d = true := fun d hd => h d (by simp [hd])
    simp only [Bool.and_eq_true, Bool.or_eq_true, List.all_eq_true]
    exact ⟨Or.inl (Or.inl hc), fun d hd => Or.inl (hs d hd)⟩

end Tool

end Script

end LineShell
