import LineShell.Script.Regex
import LineShell.Script.Tool.Lines
import LineShell.Script.Tool.Quantity

/-!
# Numbering lines

A tool that writes numbers in front of lines. A text has pages with a header, a body and a footer, each
of which begins with a line of marks, and a style says which lines of each have numbers.

Main statement: `sectionOf_mark`, by which the lines that begin sections are told apart.
-/

namespace LineShell

namespace Script

namespace Numbering

/-- Which lines have numbers. -/
inductive Style where
  /-- All of them. -/
  | all
  /-- Those that hold something. -/
  | text
  /-- None. -/
  | none
  /-- Those that a regular expression fits. -/
  | fitting (r : Regex)

/-- A section of a page. -/
inductive Section where
  /-- The header. -/
  | header
  /-- The body. -/
  | body
  /-- The footer. -/
  | footer
deriving DecidableEq, Repr

/-- How numbers are written. -/
inductive Form where
  /-- At the left. -/
  | left
  /-- At the right. -/
  | right
  /-- At the right with zeros in front. -/
  | zeros
deriving DecidableEq, Repr

/-- How lines are numbered. -/
structure Rules where
  /-- The styles of the sections. -/
  style : Section → Style
  /-- The mark of which lines that begin sections consist. -/
  mark : Octets
  /-- The first number. -/
  first : Int
  /-- The difference between numbers. -/
  step : Int
  /-- How many empty lines count as one. -/
  joined : Nat
  /-- What is written behind a number. -/
  separator : Octets
  /-- How wide a number is. -/
  width : Nat
  /-- How it is written. -/
  form : Form
  /-- Whether numbers go on from page to page. -/
  goesOn : Bool

/-- The section that a line begins, if it is a line of marks. -/
def sectionOf (mark l : Octets) : Option Section :=
  if mark.length < 2 then none
  else if l = mark ++ mark ++ mark then some .header
  else if l = mark ++ mark then some .body
  else if l = mark then some .footer
  else none

/-- The lines that begin sections are told apart. -/
theorem sectionOf_mark {mark : Octets} (h : 2 ≤ mark.length) :
    sectionOf mark mark = some .footer ∧ sectionOf mark (mark ++ mark) = some .body ∧
      sectionOf mark (mark ++ mark ++ mark) = some .header := by
  have h0 : ¬ mark.length < 2 := by omega
  have h1 : mark ≠ mark ++ mark := fun e => by
    have := congrArg List.length e
    simp only [List.length_append] at this
    omega
  have h2 : mark ≠ mark ++ mark ++ mark := fun e => by
    have := congrArg List.length e
    simp only [List.length_append] at this
    omega
  have h3 : mark ++ mark ≠ mark ++ mark ++ mark := fun e => by
    have := congrArg List.length e
    simp only [List.length_append] at this
    omega
  refine ⟨?_, ?_, ?_⟩
  · rw [sectionOf, if_neg h0, if_neg h2, if_neg h1, if_pos rfl]
  · rw [sectionOf, if_neg h0, if_neg h3, if_pos rfl]
  · rw [sectionOf, if_neg h0, if_pos rfl]

/-- A number as it is written. -/
def Rules.numberText (r : Rules) (n : Int) : Octets :=
  let ds := Numeral.digits n.natAbs
  let sign := if n < 0 then ['-'] else []
  let missing := r.width - (sign.length + ds.length)
  match r.form with
  | .left => sign ++ ds ++ List.replicate missing ' '
  | .right => List.replicate missing ' ' ++ sign ++ ds
  | .zeros => sign ++ List.replicate missing '0' ++ ds

/-- What stands before a line without a number. -/
def Rules.blank (r : Rules) : Octets := List.replicate (r.width + r.separator.length) ' '

/-- Whether a line has a number, and how many empty lines have been left without one before it. -/
def Rules.isNumbered (r : Rules) (s : Section) (empty : Nat) (l : Octets) : Bool × Nat :=
  match r.style s with
  | .all =>
      if !l.isEmpty || empty + 1 = r.joined || r.joined ≤ 1 then (true, 0) else (false, empty + 1)
  | .text => (!l.isEmpty, empty)
  | .none => (false, empty)
  | .fitting e => ((e.search? [] l).isSome, empty)

/-- Lines with numbers in front, from a number on. -/
def Rules.number (r : Rules) (s : Section) (n : Int) (empty : Nat) : List Octets → Octets
  | [] => []
  | l :: ls => match sectionOf r.mark l with
    | some s => '\n' :: r.number s (if r.goesOn then n else r.first) empty ls
    | none =>
        let (numbered, empty) := r.isNumbered s empty l
        if numbered then
          r.numberText n ++ r.separator ++ l ++ '\n' :: r.number s (n + r.step) empty ls
        else r.blank ++ l ++ '\n' :: r.number s n empty ls

end Numbering

namespace Tool

open LineShell.Script.Numbering

/-- The options for numbering lines. -/
def nlRules : OptionRules :=
  ⟨"h:b:v:i:pl:s:w:n:d:f:", [("header-numbering", 'h'), ("body-numbering", 'b'),
    ("footer-numbering", 'f'), ("starting-line-number", 'v'), ("line-increment", 'i'),
    ("no-renumber", 'p'), ("join-blank-lines", 'l'), ("number-separator", 's'),
    ("number-width", 'w'), ("number-format", 'n'), ("section-delimiter", 'd')], true, 1⟩

/-- The style that the value of an option gives; nothing if it is none. -/
def numberingStyle (c : Call) (value : Octets) : Task (Option Style) :=
  match value with
  | 'a' :: _ => return some .all
  | 't' :: _ => return some .text
  | 'n' :: _ => return some .none
  | 'p' :: cs => match Regex.read (.basic false) cs with
    | .ok r => return some (.fitting r)
    | .error e => failWith c 1 (octetsOf e.message)
  | _ => return none

/-- The options that name the style of a section. -/
def sectionNames : List (Char × String × Section) :=
  [('h', "header", .header), ('b', "body", .body), ('f', "footer", .footer)]

/-- The mark of sections that the value of an option gives: one character is completed by a colon. -/
def sectionMark (value : Octets) : Octets :=
  match value with
  | [c] => [c, ':']
  | cs => cs

/-- Rules changed by an option, and whether its value is in order. -/
def withNumbering (c : Call) (r : Rules × Bool) (o : Char × Octets) : Task (Rules × Bool) := do
  let (rules, isFine) := r
  let (letter, value) := o
  match sectionNames.lookup letter, letter with
  | some (name, s), _ => match ← numberingStyle c value with
    | some style =>
        return ({ rules with style := fun t => if t = s then style else rules.style t }, isFine)
    | none => do
        say c (octetsOf s!"invalid {name} numbering style: " ++ quoteText value)
        return (rules, false)
  | none, 'v' =>
      return ({ rules with first := ← wholeQuantity c "invalid starting line number" value }, isFine)
  | none, 'i' =>
      return ({ rules with step := ← wholeQuantity c "invalid line number increment" value }, isFine)
  | none, 'l' =>
      let n ← quantity c "" 1 maxWord "invalid line number of blank lines" value
      return ({ rules with joined := n }, isFine)
  | none, 'w' =>
      let n ← quantity c "" 1 maxHalfWord "invalid line number field width" value
      return ({ rules with width := n }, isFine)
  | none, 's' => return ({ rules with separator := value }, isFine)
  | none, 'd' => return ({ rules with mark := sectionMark value }, isFine)
  | none, 'p' => return ({ rules with goesOn := true }, isFine)
  | none, 'n' =>
      if value = ['l', 'n'] then return ({ rules with form := .left }, isFine)
      else if value = ['r', 'n'] then return ({ rules with form := .right }, isFine)
      else if value = ['r', 'z'] then return ({ rules with form := .zeros }, isFine)
      else do
        say c (octetsOf "invalid line numbering format: " ++ quoteText value)
        return (rules, false)
  | none, _ => return (rules, isFine)

/-- How lines are numbered without options. -/
def usualNumbering : Rules where
  style := fun s => if s = .body then .text else .none
  mark := ['\\', ':']
  first := 1
  step := 1
  joined := 1
  separator := ['\t']
  width := 6
  form := .right
  goesOn := false

/-- Numbering the lines of files. -/
def nl : Tool := fun c => do
  let a ← arguments nlRules c
  let (rules, isFine) ← a.options.foldlM (withNumbering c) (usualNumbering, true)
  if !isFine then do
    pointToManual c
    return 1
  else do
    let (parts, isWhole) ← readAll c a.operands
    write (rules.number .body rules.first 0 (parts.flatMap fun e => linesOf e.2))
    return if isWhole then 0 else 1

end Tool

end Script

end LineShell
