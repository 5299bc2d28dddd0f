import LineShell.Script.Octets

/-!
# Escapes

A backslash with a letter or with digits stands for an octet. Which letters there are, and whether
octal digits need a zero in front, is a matter of the command that writes; so the reader of escapes
takes a record of rules.

Main statement: `unescape_of_plain`, by which a text without a backslash stands for itself.
-/

namespace LineShell

namespace Script

/-- What escapes there are. -/
structure EscapeRules where
  /-- The letters that stand for the escape character. -/
  escapeLetters : List Char
  /-- The characters that stand for themselves. -/
  marks : List Char
  /-- Whether hexadecimal digits follow an `x`. -/
  hexadecimal : Bool
  /-- Whether the number of a character follows a `u`. -/
  unicode : Bool
  /-- Whether octal digits follow the backslash directly. -/
  octal : Bool
  /-- Whether three octal digits follow a zero. -/
  zeroOctal : Bool
  /-- Whether there is a letter that ends the output. -/
  ends : Bool
  /-- Whether a letter behind a `c` stands for a control character. -/
  control : Bool

namespace EscapeRules

/-- The rules of the common shell for texts. -/
def plainText : EscapeRules := ⟨['e'], [], false, false, true, true, true, false⟩

/-- The rules of the common shell for formats. -/
def plainFormat : EscapeRules := ⟨['e'], [], false, false, true, false, false, false⟩

/-- The rules of the extended shell for texts that are written. -/
def extendedText : EscapeRules := ⟨['e', 'E'], [], true, true, false, true, true, false⟩

/-- The rules of the extended shell for arguments of formats. -/
def extendedArgument : EscapeRules := ⟨['e', 'E'], [], true, true, true, true, true, false⟩

/-- The rules of the extended shell for formats. -/
def extendedFormat : EscapeRules :=
  ⟨['e', 'E'], ['"', '\'', '?'], true, true, true, false, false, false⟩

/-- The rules of the extended shell for quoted texts. -/
def extendedQuoted : EscapeRules :=
  ⟨['e', 'E'], ['"', '\'', '?'], true, true, true, false, false, true⟩

/-- The rules of tools for texts. -/
def toolText : EscapeRules := ⟨['e'], [], true, false, true, true, true, false⟩

/-- The rules of tools for formats. -/
def toolFormat : EscapeRules := ⟨['e'], ['"'], true, true, true, false, true, false⟩

end EscapeRules

/-- The octet that an escape of one letter means everywhere. -/
def letterEscape? : Char → Option Char
  | 'a' => some '\x07'
  | 'b' => some '\x08'
  | 'f' => some '\x0c'
  | 'n' => some '\n'
  | 'r' => some '\r'
  | 't' => some '\t'
  | 'v' => some '\x0b'
  | '\\' => some '\\'
  | _ => none

/-- Whether a character is an octal digit. -/
def isOctal (c : Char) : Bool := '0' ≤ c && c ≤ '7'

/-- The value of a hexadecimal digit. -/
def hexValue? (c : Char) : Option Nat :=
  if isAsciiDigit c then some (c.toNat - 48)
  else if 'a' ≤ c && c ≤ 'f' then some (c.toNat - 87)
  else if 'A' ≤ c && c ≤ 'F' then some (c.toNat - 55)
  else none

/-- The number that digits write in a base. -/
def ofBase (base : Nat) (ds : Octets) : Nat :=
  ds.foldl (fun n d => base * n + (hexValue? d).getD 0) 0

/-- At most so many characters in front that pass a test, and the rest. -/
def takeAtMost (p : Char → Bool) (n : Nat) (cs : Octets) : Octets × Octets :=
  let ds := (cs.take n).takeWhile p
  (ds, cs.drop ds.length)

/-- The octet with a number, which is cut to eight bits. -/
def octet (n : Nat) : Char := Char.ofNat (n % 256)

/-- Whether a character is a hexadecimal digit. -/
def isHex (c : Char) : Bool := (hexValue? c).isSome

/-- A number with four hexadecimal digits at least. -/
def fourDigits (n : Nat) : Octets :=
  let ds := (Nat.toDigits 16 n).map Char.toUpper
  List.replicate (4 - ds.length) '0' ++ ds

/-- A character by its number; one beyond the common ones is written as an escape. -/
def character (n : Nat) : Octets :=
  if n < 128 then [Char.ofNat n]
  else if n < 65536 then '\\' :: 'u' :: fourDigits n
  else '\\' :: 'U' :: List.replicate 4 '0' ++ fourDigits n

/-- What comes of the text behind a backslash. -/
inductive Escape where
  /-- Octets, and the rest. -/
  | octets (cs rest : Octets)
  /-- The end of the output. -/
  | finish

/-- What comes of the text behind a backslash, by rules; nothing if it is no escape. -/
def escapeOf? (rules : EscapeRules) : Octets → Option Escape
  | [] => none
  | c :: cs =>
      if c = 'c' && rules.ends then some .finish
      else if c = '0' && rules.zeroOctal then
        let (ds, rest) := takeAtMost isOctal 3 cs
        some (.octets [octet (ofBase 8 ds)] rest)
      else if isOctal c && rules.octal then
        let (ds, rest) := takeAtMost isOctal 3 (c :: cs)
        some (.octets [octet (ofBase 8 ds)] rest)
      else if c = 'x' && rules.hexadecimal then
        match takeAtMost isHex 2 cs with
        | ([], _) => none
        | (ds, rest) => some (.octets [octet (ofBase 16 ds)] rest)
      else if (c = 'u' || c = 'U') && rules.unicode then
        match takeAtMost isHex (if c = 'u' then 4 else 8) cs with
        | ([], _) => none
        | (ds, rest) => some (.octets (character (ofBase 16 ds)) rest)
      else if rules.escapeLetters.contains c then some (.octets ['\x1b'] cs)
      else if rules.marks.contains c then some (.octets [c] cs)
      else if c = 'c' && rules.control then match cs with
        | d :: rest => some (.octets [octet (d.toUpper.toNat % 32)] rest)
        | [] => none
      else (letterEscape? c).map fun e => .octets [e] cs

/-- A text with its escapes read, and whether it asks for an end of the output. The number bounds
the steps. -/
def unescapeFrom (rules : EscapeRules) : Nat → Octets → Octets × Bool
  | 0, cs => (cs, false)
  | _, [] => ([], false)
  | n + 1, c :: cs =>
      if c = '\\' then match escapeOf? rules cs with
        | some .finish => ([], true)
        | some (.octets out rest) =>
            let (more, ended) := unescapeFrom rules n rest
            (out ++ more, ended)
        | none =>
            let (more, ended) := unescapeFrom rules n cs
            ('\\' :: more, ended)
      else
        let (more, ended) := unescapeFrom rules n cs
        (c :: more, ended)

/-- A text with its escapes read, and whether it asks for an end of the output. -/
def unescape (rules : EscapeRules) (cs : Octets) : Octets × Bool := unescapeFrom rules cs.length cs

/-- A quoted text of the extended shell with its escapes read; it ends at the null character. -/
def unescapeQuoted (cs : Octets) : Octets :=
  (unescape .extendedQuoted cs).1.takeWhile (· != '\x00')

/-- A text without a backslash stands for itself. -/
theorem unescapeFrom_of_plain {rules : EscapeRules} {n : Nat} {cs : Octets}
    (h : '\\' ∉ cs) : unescapeFrom rules n cs = (cs, false) := by
  induction n generalizing cs with
  | zero => rfl
  | succ n ih =>
    cases cs with
    | nil => rfl
    | cons c cs =>
      simp only [List.mem_cons, not_or] at h
      simp [unescapeFrom, Ne.symm h.1, ih h.2]

/-- A text without a backslash stands for itself. -/
theorem unescape_of_plain {rules : EscapeRules} {cs : Octets} (h : '\\' ∉ cs) :
    unescape rules cs = (cs, false) := unescapeFrom_of_plain h

end Script

end LineShell
