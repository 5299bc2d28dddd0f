/-!
# Lines

Cutting a text into lines. Every line or paragraph separator of Unicode ends a line, and so do the
vertical tab, the form feed and the file, group and record separators; a carriage return and the
line feed behind it end one line together. A final line end begins no further line.
-/

namespace LineShell

/-- Whether a character ends a line. -/
def isLineEnd (c : Char) : Bool :=
  let n := c.toNat
  (10 ≤ n && n ≤ 13) || (28 ≤ n && n ≤ 30) || n == 0x85 || n == 0x2028 || n == 0x2029

namespace Chars

/-- The lines of a text, without their ends. -/
def lines : List Char → List (List Char)
  | [] => []
  | '\r' :: '\n' :: cs => [] :: lines cs
  | c :: cs =>
      if isLineEnd c then [] :: lines cs
      else match lines cs with
        | [] => [[c]]
        | l :: ls => (c :: l) :: ls

/-- Line ends as a text file holds them become line feeds: a carriage return with a line feed
behind it, and a carriage return alone, are each one line feed. -/
def unifyNewlines : List Char → List Char
  | [] => []
  | '\r' :: '\n' :: cs => '\n' :: unifyNewlines cs
  | c :: cs => (if c = '\r' then '\n' else c) :: unifyNewlines cs

theorem not_mem_unifyNewlines (cs : List Char) : '\r' ∉ unifyNewlines cs := by
  fun_induction unifyNewlines cs with
  | case1 => simp
  | case2 cs ih => simp [ih]
  | case3 c cs _ ih =>
      simp only [List.mem_cons, not_or]
      refine ⟨?_, ih⟩
      split
      · decide
      · next h => exact fun hc => h hc.symm

end Chars

namespace Text

/-- The lines of a text, without their ends. -/
def lines (s : String) : List String := (Chars.lines s.toList).map String.ofList

end Text

end LineShell
