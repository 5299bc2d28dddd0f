import LineShell.Text.Printable

/-!
# Quoted text

The form in which diagnostics and settings show a text: between quotation marks, with marks,
backslashes and unprintable characters escaped, so that the text can be read off unambiguously.

Single marks are used unless the text holds single marks and no double ones. Main statement:
`quoteMark_eq_double_iff`, which says just when.
-/

namespace LineShell

namespace Chars

/-- The mark that encloses a text. -/
def quoteMark (cs : List Char) : Char :=
  if cs.contains '\'' && !cs.contains '"' then '"' else '\''

/-- Double marks enclose a text exactly when it holds single marks only. -/
theorem quoteMark_eq_double_iff {cs : List Char} : quoteMark cs = '"' ↔ '\'' ∈ cs ∧ '"' ∉ cs := by
  unfold quoteMark
  split <;> simp_all

/-- The lower-case hexadecimal digits of a number, padded with zeros to a width. -/
def hexDigits (width n : Nat) : List Char :=
  let ds := Nat.toDigits 16 n
  List.replicate (width - ds.length) '0' ++ ds

/-- A character as it stands between the marks. -/
def escape (mark c : Char) : List Char :=
  if c = mark ∨ c = '\\' then ['\\', c]
  else if c = '\n' then ['\\', 'n']
  else if c = '\r' then ['\\', 'r']
  else if c = '\t' then ['\\', 't']
  else if isPrintable c then [c]
  else if c.toNat < 0x100 then '\\' :: 'x' :: hexDigits 2 c.toNat
  else if c.toNat < 0x10000 then '\\' :: 'u' :: hexDigits 4 c.toNat
  else '\\' :: 'U' :: hexDigits 8 c.toNat

/-- A text between marks. -/
def quote (cs : List Char) : List Char :=
  let mark := quoteMark cs
  mark :: cs.flatMap (escape mark) ++ [mark]

end Chars

namespace Text

/-- A text between marks. -/
def quote (s : String) : String := String.ofList (Chars.quote s.toList)

end Text

end LineShell
