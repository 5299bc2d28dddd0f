/-!
# Blanks, words and trimming

Which characters separate words, and the cutting of a text into words that rests on them. All of
the shell that speaks of "words" or of a "trimmed" text means the functions of this file, so the
class of blanks is stated once, in `isBlank`.

The work is done on character lists (`LineShell.Chars`), where each function is a composition of
list functions; the versions on `String` (`LineShell.Text`) only convert.

Main statements: `words_eq_nil_iff` (a text has no word exactly when it is all blanks),
`not_isBlank_of_mem_words` and `ne_nil_of_mem_words` (a word is non-empty and free of blanks),
`words_append_cons` (a blank between two texts keeps their words apart).
-/

namespace LineShell

/-! ### The class of blanks -/

/-- The blanks are the characters that Unicode counts as white space, together with the four
information separators U+001C to U+001F. -/
def isBlank (c : Char) : Bool :=
  let n := c.toNat
  (9 ≤ n && n ≤ 13) || (28 ≤ n && n ≤ 32) || n == 0x85 || n == 0xA0 || n == 0x1680 ||
    (0x2000 ≤ n && n ≤ 0x200A) || n == 0x2028 || n == 0x2029 || n == 0x202F || n == 0x205F ||
    n == 0x3000

/-- Every blank that the core library knows is a blank here. -/
theorem isBlank_of_isWhitespace {c : Char} (h : c.isWhitespace = true) : isBlank c = true := by
  simp only [Char.isWhitespace, Bool.or_eq_true, decide_eq_true_eq] at h
  rcases h with ((rfl | rfl) | rfl) | rfl <;> decide

namespace Chars

/-! ### Cutting at marked characters -/

/-- The stretches of a list between the elements that satisfy `p`, the empty ones included: one
more than there are such elements. -/
def pieces {α : Type} (p : α → Bool) : List α → List (List α)
  | [] => [[]]
  | a :: as => if p a then [] :: pieces p as else (pieces p as).modifyHead (a :: ·)

theorem pieces_ne_nil {α : Type} (p : α → Bool) (as : List α) : pieces p as ≠ [] := by
  induction as with
  | nil => simp [pieces]
  | cons a as ih =>
      unfold pieces
      split
      · simp
      · cases h : pieces p as with
        | nil => exact absurd h ih
        | cons b bs => simp

/-- A marked element ends the stretch before it and begins a new one. -/
theorem pieces_append_cons {α : Type} {p : α → Bool} (as : List α) {a : α} (ha : p a = true)
    (bs : List α) : pieces p (as ++ a :: bs) = pieces p as ++ pieces p bs := by
  induction as with
  | nil => simp [pieces, ha]
  | cons c cs ih =>
      simp only [List.cons_append, pieces, ih]
      split
      · rfl
      · cases h : pieces p cs with
        | nil => exact absurd h (pieces_ne_nil p cs)
        | cons d ds => simp

/-- No stretch holds a marked element. -/
theorem not_of_mem_pieces {α : Type} {p : α → Bool} {as w : List α} (hw : w ∈ pieces p as)
    {a : α} (ha : a ∈ w) : p a = false := by
  induction as generalizing w with
  | nil => simp_all [pieces]
  | cons c cs ih =>
      unfold pieces at hw
      split at hw
      · rcases List.mem_cons.mp hw with rfl | hw
        · cases ha
        · exact ih hw ha
      · next hc =>
        cases h : pieces p cs with
        | nil => exact absurd h (pieces_ne_nil p cs)
        | cons d ds =>
            rw [h] at hw ih
            rcases List.mem_cons.mp hw with rfl | hw
            · rcases List.mem_cons.mp ha with rfl | ha
              · simpa using hc
              · exact ih List.mem_cons_self ha
            · exact ih (List.mem_cons_of_mem _ hw) ha

/-! ### Words -/

/-- The words of a text are its longest stretches without a blank, in order. -/
def words (cs : List Char) : List (List Char) :=
  (pieces isBlank cs).filter (!·.isEmpty)

@[simp] theorem words_nil : words [] = [] := rfl

theorem ne_nil_of_mem_words {cs w : List Char} (h : w ∈ words cs) : w ≠ [] := by
  have := (List.mem_filter.mp h).2
  simpa using this

theorem not_isBlank_of_mem_words {cs w : List Char} (h : w ∈ words cs) {c : Char} (hc : c ∈ w) :
    isBlank c = false :=
  not_of_mem_pieces (List.mem_filter.mp h).1 hc

/-- A blank between two texts keeps their words apart. -/
theorem words_append_cons (as : List Char) {c : Char} (hc : isBlank c = true) (bs : List Char) :
    words (as ++ c :: bs) = words as ++ words bs := by
  simp [words, pieces_append_cons as hc bs]

/-- A leading blank does not count. -/
theorem words_cons_of_isBlank {c : Char} (hc : isBlank c = true) (cs : List Char) :
    words (c :: cs) = words cs := by
  simpa using words_append_cons [] hc cs

theorem words_cons_ne_nil {c : Char} (hc : isBlank c = false) (cs : List Char) :
    words (c :: cs) ≠ [] := by
  unfold words pieces
  rw [if_neg (by simp [hc])]
  cases h : pieces isBlank cs with
  | nil => exact absurd h (pieces_ne_nil _ cs)
  | cons d ds => simp

/-- A text has no word exactly when all of it is blank. -/
theorem words_eq_nil_iff {cs : List Char} : words cs = [] ↔ ∀ c ∈ cs, isBlank c = true := by
  induction cs with
  | nil => simp
  | cons c cs ih =>
      cases hc : isBlank c with
      | true => simp [words_cons_of_isBlank hc, ih, hc]
      | false => simp [words_cons_ne_nil hc, hc]

/-! ### Trimming -/

/-- The text without its leading blanks. -/
def trimStart (cs : List Char) : List Char := cs.dropWhile isBlank

/-- The text without its trailing blanks. -/
def trimEnd (cs : List Char) : List Char := (cs.reverse.dropWhile isBlank).reverse

/-- The text without the blanks at either end. -/
def trim (cs : List Char) : List Char := trimEnd (trimStart cs)

/-- The first word of a text and what follows it, from the next word on; trailing blanks of the
rest are kept. A text without words has neither. -/
def headAndRest (cs : List Char) : Option (List Char × List Char) :=
  match trimStart cs with
  | [] => none
  | body => some (body.takeWhile (!isBlank ·), trimStart (body.dropWhile (!isBlank ·)))

/-- The text without the line feeds at its end. -/
def dropFinalNewlines (cs : List Char) : List Char := (cs.reverse.dropWhile (· == '\n')).reverse

end Chars

namespace Text

/-- The words of a text: its longest stretches without a blank, in order. -/
def words (s : String) : List String := (Chars.words s.toList).map String.ofList

/-- The text without the blanks at either end. -/
def trim (s : String) : String := String.ofList (Chars.trim s.toList)

/-- Whether a text holds nothing but blanks. -/
def isBlankText (s : String) : Bool := s.toList.all isBlank

/-- The first word of a text, empty when there is none. -/
def firstWord (s : String) : String := (words s).headD ""

/-- The first word of a text and the rest from the next word on, trailing blanks kept. -/
def headAndRest (s : String) : Option (String × String) :=
  (Chars.headAndRest s.toList).map fun p => (String.ofList p.1, String.ofList p.2)

/-- The text without the line feeds at its end. -/
def dropFinalNewlines (s : String) : String := String.ofList (Chars.dropFinalNewlines s.toList)

/-- Words written with one space between them. -/
def unwords (ws : List String) : String := " ".intercalate ws

/-- A text is all blank exactly when it has no words. -/
theorem isBlankText_iff {s : String} : isBlankText s = true ↔ words s = [] := by
  simp [isBlankText, words, Chars.words_eq_nil_iff]

end Text

end LineShell
