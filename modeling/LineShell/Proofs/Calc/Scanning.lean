import LineShell.Calc.Evaluate
import LineShell.Calc.Spelling
import LineShell.Proofs.Calc.Reading

/-!
# Spellings and tokens

The lexer sees an expression after each caret in it has become two stars. So a text can be cut in a
place where the expression has no seam: of `*^` it sees three stars, and takes the first two for a
power. What is left then begins with a star, which is no sign of a number. That is why such a text
spells no expression, and why every other text can be cut as the lexer cuts it
(`cut_of_pieces_shownChars`).

**Main statement** (`spells_iff_tokensOfChars`): a text of expression characters spells a number and
links exactly when its tokens are that number, and an operator and a number for each link.
-/

namespace LineShell

namespace Calc

/-! ### Characters -/

/-- The characters of an expression are digits, fillers, carets and operators. -/
theorem cases_of_isExpressionChar {c : Char} (h : isExpressionChar c = true) :
    isAsciiDigit c = true ∨ isFiller c = true ∨ c = '^' ∨ ∃ o, operatorOfChar? c = some o := by
  rw [isExpressionChar, Bool.or_eq_true, List.contains_iff_mem] at h
  rcases h with h | h
  · exact .inl h
  · have hmem : c ∈ [' ', '+', '-', '*', '/', '%', '(', ')', '^'] := h
    simp only [List.mem_cons, List.not_mem_nil, or_false] at hmem
    rcases hmem with rfl | rfl | rfl | rfl | rfl | rfl | rfl | rfl | rfl <;>
      simp [isFiller, operatorOfChar?]

/-- A decimal digit is no filler, no caret and no operator. -/
theorem not_isDecimalDigit_of_isFiller {c : Char} (h : isFiller c = true) :
    isDecimalDigit c = false := by
  simp only [isFiller, Bool.or_eq_true, beq_iff_eq] at h
  rcases h with (rfl | rfl) | rfl <;> decide

theorem not_isDecimalDigit_of_operatorOfChar? {c : Char} {o : Operator}
    (h : operatorOfChar? c = some o) : isDecimalDigit c = false := by
  fun_cases operatorOfChar? c with
  | case1 | case2 | case3 | case4 | case5 => decide
  | case6 => simp_all [operatorOfChar?]

/-- Among the characters of an expression the decimal digits are the ASCII digits. -/
theorem isAsciiDigit_of_isDecimalDigit {c : Char} (hc : isExpressionChar c = true)
    (h : isDecimalDigit c = true) : isAsciiDigit c = true := by
  rcases cases_of_isExpressionChar hc with hd | hf | rfl | ⟨o, ho⟩
  · exact hd
  · rw [not_isDecimalDigit_of_isFiller hf] at h
    cases h
  · revert h
    decide
  · rw [not_isDecimalDigit_of_operatorOfChar? ho] at h
    cases h

/-! ### Texts as they are shown -/

@[simp] theorem shownChars_nil : shownChars [] = [] := rfl

theorem shownChars_append (as bs : List Char) :
    shownChars (as ++ bs) = shownChars as ++ shownChars bs :=
  List.flatMap_append

@[simp] theorem shownChars_caret (cs : List Char) :
    shownChars ('^' :: cs) = '*' :: '*' :: shownChars cs := rfl

theorem shownChars_cons_of_ne {c : Char} (h : c ≠ '^') (cs : List Char) :
    shownChars (c :: cs) = c :: shownChars cs := by
  simp [shownChars, h]

/-- Without a caret a text is shown as it is. -/
theorem shownChars_eq_self {cs : List Char} (h : ∀ c ∈ cs, c ≠ '^') : shownChars cs = cs := by
  induction cs with
  | nil => rfl
  | cons c cs ih =>
      rw [shownChars_cons_of_ne (h c List.mem_cons_self),
        ih fun d hd => h d (List.mem_cons_of_mem _ hd)]

/-- A decimal digit is no caret. -/
theorem ne_caret_of_isDecimalDigit {c : Char} (h : isDecimalDigit c = true) : c ≠ '^' := by
  rintro rfl
  revert h
  decide

/-- A text is shown with the digits that it begins with. -/
theorem takeWhile_shownChars (cs : List Char) :
    (shownChars cs).takeWhile isDecimalDigit = cs.takeWhile isDecimalDigit := by
  induction cs with
  | nil => rfl
  | cons c cs ih =>
      by_cases hc : c = '^'
      · subst hc
        rfl
      · rw [shownChars_cons_of_ne hc, List.takeWhile_cons, List.takeWhile_cons, ih]

/-- What is shown behind the first digits is what stands behind them. -/
theorem dropWhile_shownChars (cs : List Char) :
    (shownChars cs).dropWhile isDecimalDigit = shownChars (cs.dropWhile isDecimalDigit) := by
  induction cs with
  | nil => rfl
  | cons c cs ih =>
      by_cases hc : isDecimalDigit c = true
      · rw [shownChars_cons_of_ne (ne_caret_of_isDecimalDigit hc), List.dropWhile_cons_of_pos hc,
          List.dropWhile_cons_of_pos hc, ih]
      · rw [List.dropWhile_cons_of_neg hc]
        by_cases hcaret : c = '^'
        · subst hcaret
          rfl
        · rw [shownChars_cons_of_ne hcaret, List.dropWhile_cons_of_neg hc]

/-! ### The first piece of a text -/

/-- A filler is skipped. -/
theorem pieces_cons_of_isFiller {c : Char} (h : isFiller c = true) (cs : List Char) :
    pieces (c :: cs) = pieces cs := by
  simp only [isFiller, Bool.or_eq_true, beq_iff_eq] at h
  rcases h with (rfl | rfl) | rfl <;> rw [pieces] <;>
    simp [isDecimalDigit, digitValue?, operatorOfChar?]

/-- Fillers are skipped. -/
theorem pieces_filler_append {gap : List Char} (h : IsFiller gap) (cs : List Char) :
    pieces (gap ++ cs) = pieces cs := by
  induction gap with
  | nil => rfl
  | cons c gap ih =>
      rw [List.cons_append, pieces_cons_of_isFiller (h c List.mem_cons_self),
        ih fun d hd => h d (List.mem_cons_of_mem _ hd)]

/-- Two stars are a power. -/
theorem pieces_star_star (cs : List Char) :
    pieces ('*' :: '*' :: cs) = .operator .pow :: pieces cs := by
  rw [pieces]

/-- Any other operator is one character. -/
theorem pieces_cons_of_operatorOfChar? {c : Char} {o : Operator} (h : operatorOfChar? c = some o)
    {cs : List Char} (hstar : c = '*' → cs.head? ≠ some '*') :
    pieces (c :: cs) = .operator o :: pieces cs := by
  rw [pieces]
  · simp [not_isDecimalDigit_of_operatorOfChar? h, h]
  · rintro ds rfl rfl
    exact hstar rfl rfl

/-- A digit begins the longest run of digits. -/
theorem pieces_cons_of_isDecimalDigit {c : Char} (h : isDecimalDigit c = true) (cs : List Char) :
    pieces (c :: cs) =
      .digits (c :: cs.takeWhile isDecimalDigit) :: pieces (cs.dropWhile isDecimalDigit) := by
  rw [pieces]
  · rw [if_pos h]
  · rintro ds rfl
    exact absurd h (by decide)

/-- Digits before anything else are a run of digits. -/
theorem pieces_digits_append {ds cs : List Char} (hne : ds ≠ [])
    (hds : ∀ d ∈ ds, isDecimalDigit d = true) (hcs : ∀ c ∈ cs.head?, isDecimalDigit c = false) :
    pieces (ds ++ cs) = .digits ds :: pieces cs := by
  cases ds with
  | nil => exact absurd rfl hne
  | cons d ds =>
      have hds' : ∀ e ∈ ds, isDecimalDigit e = true := fun e he => hds e (List.mem_cons_of_mem _ he)
      have htake : cs.takeWhile isDecimalDigit = [] := by
        cases cs with
        | nil => rfl
        | cons c cs => exact List.takeWhile_cons_of_neg (by simp [hcs c rfl])
      have hdrop : cs.dropWhile isDecimalDigit = cs := by
        cases cs with
        | nil => rfl
        | cons c cs => exact List.dropWhile_cons_of_neg (by simp [hcs c rfl])
      rw [List.cons_append, pieces_cons_of_isDecimalDigit (hds d List.mem_cons_self),
        List.takeWhile_append_of_pos hds', List.dropWhile_append_of_pos hds', htake, hdrop,
        List.append_nil]

/-- A star begins an operator that is no sign. -/
theorem exists_pieces_star (cs : List Char) :
    ∃ o ps, pieces ('*' :: cs) = .operator o :: ps ∧ signOf? o = none := by
  cases cs with
  | nil => exact ⟨.mul, pieces [], pieces_cons_of_operatorOfChar? rfl (by simp), rfl⟩
  | cons c cs =>
      by_cases hc : c = '*'
      · subst hc
        exact ⟨.pow, pieces cs, pieces_star_star cs, rfl⟩
      · exact ⟨.mul, pieces (c :: cs), pieces_cons_of_operatorOfChar? rfl (by simpa using hc), rfl⟩

/-! ### From a spelling to its tokens -/

theorem isFiller_nil : IsFiller [] := fun _ hc => nomatch hc

/-- What stands first behind fillers is a filler or what stands first in the rest. -/
theorem head?_filler_append {gap cs : List Char} (h : IsFiller gap) {c : Char}
    (hc : c ∈ (gap ++ cs).head?) : isFiller c = true ∨ c ∈ cs.head? := by
  cases gap with
  | nil => exact .inr hc
  | cons d gap =>
      obtain rfl : d = c := by simpa using hc
      exact .inl (h d List.mem_cons_self)

/-- A filler is no caret. -/
theorem ne_caret_of_isFiller {c : Char} (h : isFiller c = true) : c ≠ '^' := by
  rintro rfl
  exact absurd h (by decide)

/-- Fillers are shown as they are. -/
theorem IsFiller.shownChars_eq {gap : List Char} (h : IsFiller gap) : shownChars gap = gap :=
  shownChars_eq_self fun c hc => ne_caret_of_isFiller (h c hc)

/-- The digits of a numeral are decimal digits. -/
theorem IsNumeral.isDecimalDigit {ds : List Char} (h : IsNumeral ds) :
    ∀ d ∈ ds, isDecimalDigit d = true :=
  fun d hd => isDecimalDigit_of_isAsciiDigit (h.2 d hd)

/-- The digits of a numeral are shown as they are. -/
theorem IsNumeral.shownChars_eq {ds : List Char} (h : IsNumeral ds) : shownChars ds = ds :=
  shownChars_eq_self fun d hd => ne_caret_of_isDecimalDigit (h.isDecimalDigit d hd)

/-- The operator that the character of a sign spells. -/
def Sign.operator : Sign → Operator
  | plus => .add
  | minus => .sub

theorem Sign.operatorOfChar?_char (s : Sign) : operatorOfChar? s.char = some s.operator := by
  cases s <;> rfl

theorem Sign.signOf?_operator (s : Sign) : signOf? s.operator = some s := by
  cases s <;> rfl

/-- An operator that is a sign is spelled by the character of the sign. -/
theorem eq_operator_of_signOf? {o : Operator} {s : Sign} (h : signOf? o = some s) :
    o = s.operator := by
  cases o <;> cases h <;> rfl

/-- A sign before digits belongs to them. -/
theorem joinSigns_signed {o : Operator} {s : Sign} (h : signOf? o = some s) (ds : List Char)
    (ps : List Piece) :
    joinSigns true (.operator o :: .digits ds :: ps) = .number ⟨some s, ds⟩ :: joinSigns false ps := by
  simp [joinSigns, h]

/-- Behind a number every operator stands for itself. -/
theorem joinSigns_false_operator (o : Operator) (ps : List Piece) :
    joinSigns false (.operator o :: ps) = .operator o :: joinSigns true ps := by
  rw [joinSigns]
  simp

theorem Sign.char_ne (s : Sign) : s.char ≠ '^' ∧ s.char ≠ '*' := by
  cases s <;> decide

/-- A number is shown as it is spelled. -/
theorem SpellsNumber.shownChars_eq {num : List Char} {n : Literal} (h : SpellsNumber num n) :
    shownChars num = num := by
  cases h with
  | unsigned digits => exact digits.shownChars_eq
  | signed s filler digits =>
      rw [List.cons_append, shownChars_cons_of_ne s.char_ne.1, shownChars_append,
        filler.shownChars_eq, digits.shownChars_eq]

/-- A number does not begin with a star. -/
theorem SpellsNumber.ne_star {num : List Char} {n : Literal} (h : SpellsNumber num n)
    {rest : List Char} : (num ++ rest).head? ≠ some '*' := by
  intro hhead
  cases h with
  | @unsigned ds digits =>
      obtain ⟨d, ds, rfl⟩ := List.exists_cons_of_ne_nil digits.1
      obtain rfl : d = '*' := by simpa using hhead
      exact absurd (digits.2 '*' List.mem_cons_self) (by decide)
  | signed s filler digits => exact s.char_ne.2 (by simpa using hhead)

/-- A number is one token where it may begin with a sign. -/
theorem SpellsNumber.joinSigns_pieces {num : List Char} {n : Literal} (h : SpellsNumber num n)
    {rest : List Char} (hrest : ∀ c ∈ rest.head?, isDecimalDigit c = false) :
    joinSigns true (pieces (num ++ rest)) = .number n :: joinSigns false (pieces rest) := by
  cases h with
  | unsigned digits =>
      rw [pieces_digits_append digits.1 digits.isDecimalDigit hrest, joinSigns]
  | @signed gap ds s filler digits =>
      have hsign : s.char = '*' → (gap ++ (ds ++ rest)).head? ≠ some '*' :=
        fun hstar => absurd hstar s.char_ne.2
      rw [List.cons_append, List.cons_append, List.append_assoc,
        pieces_cons_of_operatorOfChar? s.operatorOfChar?_char hsign, pieces_filler_append filler,
        pieces_digits_append digits.1 digits.isDecimalDigit hrest,
        joinSigns_signed s.signOf?_operator]

/-- An operator is one piece, unless a star stands behind it. -/
theorem SpellsOperator.pieces_eq {op : List Char} {o : Operator} (h : SpellsOperator op o)
    {rest : List Char} (hrest : rest.head? ≠ some '*') :
    pieces (shownChars op ++ rest) = .operator o :: pieces rest := by
  cases h with
  | caret => exact pieces_star_star rest
  | symbol =>
      cases o with
      | pow => exact pieces_star_star rest
      | mul => exact pieces_cons_of_operatorOfChar? rfl fun _ => hrest
      | add | sub | div | mod =>
          exact pieces_cons_of_operatorOfChar? rfl fun hstar => absurd hstar (by decide)

/-- An operator does not begin with a digit. -/
theorem SpellsOperator.not_isDecimalDigit {op : List Char} {o : Operator} (h : SpellsOperator op o)
    {rest : List Char} : ∀ c ∈ (shownChars op ++ rest).head?, isDecimalDigit c = false := by
  intro c hc
  cases h with
  | caret =>
      obtain rfl : '*' = c := by simpa using hc
      decide
  | symbol => cases o <;> (cases hc; decide)

/-- What follows a number does not begin with a digit. -/
theorem SpellsLinks.not_isDecimalDigit {rest : List Char} {links : List (Operator × Literal)}
    (h : SpellsLinks rest links) :
    ∀ c ∈ (shownChars rest).head?, isDecimalDigit c = false := by
  intro c hc
  cases h with
  | nil filler =>
      rw [filler.shownChars_eq] at hc
      exact not_isDecimalDigit_of_isFiller (filler c (List.mem_of_mem_head? hc))
  | cons fillerBefore operator fillerBetween number tail =>
      simp only [shownChars_append, fillerBefore.shownChars_eq, List.append_assoc] at hc
      rcases head?_filler_append fillerBefore hc with hf | hc
      · exact not_isDecimalDigit_of_isFiller hf
      · exact operator.not_isDecimalDigit c hc

/-- **What follows a number has the tokens of its links.** -/
theorem SpellsLinks.joinSigns_pieces {rest : List Char} {links : List (Operator × Literal)}
    (h : SpellsLinks rest links) :
    joinSigns false (pieces (shownChars rest)) = linkTokens links := by
  induction h with
  | nil filler =>
      have hnil := pieces_filler_append filler []
      rw [List.append_nil] at hnil
      rw [filler.shownChars_eq, hnil, pieces, joinSigns, linkTokens_nil]
  | @cons before between op num rest o n links fillerBefore operator fillerBetween number tail ih =>
      have hstar : (between ++ (num ++ shownChars rest)).head? ≠ some '*' := by
        intro hhead
        rcases head?_filler_append fillerBetween hhead with hf | hc
        · exact absurd hf (by decide)
        · exact number.ne_star hc
      simp only [shownChars_append, fillerBefore.shownChars_eq, fillerBetween.shownChars_eq,
        number.shownChars_eq, List.append_assoc]
      rw [pieces_filler_append fillerBefore, operator.pieces_eq hstar, joinSigns_false_operator,
        pieces_filler_append fillerBetween, number.joinSigns_pieces tail.not_isDecimalDigit, ih,
        linkTokens_cons]

/-- **A spelling has the tokens of what it spells.** -/
theorem Spells.tokensOfChars_eq {cs : List Char} {n : Literal} {links : List (Operator × Literal)}
    (h : Spells cs n links) :
    tokensOfChars (shownChars cs) = .number n :: linkTokens links := by
  cases h with
  | intro filler number tail =>
      simp only [tokensOfChars, shownChars_append, filler.shownChars_eq, number.shownChars_eq,
        List.append_assoc]
      rw [pieces_filler_append filler, number.joinSigns_pieces tail.not_isDecimalDigit,
        tail.joinSigns_pieces]

/-! ### From tokens to a spelling -/

/-- The spellings of a piece. -/
inductive SpellsPiece : List Char → Piece → Prop where
  /-- The digits of a run. -/
  | digits {ds : List Char} (numeral : IsNumeral ds) : SpellsPiece ds (.digits ds)
  /-- A spelling of an operator. -/
  | operator {op : List Char} {o : Operator} (spells : SpellsOperator op o) :
      SpellsPiece op (.operator o)

/-- Whether a text begins, behind fillers, with a spelling of a piece, and has the other pieces
behind it. -/
def IsCutAs (cs : List Char) (p : Piece) (ps : List Piece) : Prop :=
  ∃ gap word rest, cs = gap ++ word ++ rest ∧ IsFiller gap ∧ SpellsPiece word p ∧
    pieces (shownChars rest) = ps

/-- Whether these pieces begin with an operator that is no sign. -/
def BeginsWithOperator (ps : List Piece) : Prop :=
  ∃ o qs, ps = .operator o :: qs ∧ signOf? o = none

/-- A filler before a text that is cut does not matter. -/
theorem IsCutAs.cons_filler {c : Char} {cs : List Char} {p : Piece} {ps : List Piece}
    (h : IsCutAs cs p ps) (hc : isFiller c = true) : IsCutAs (c :: cs) p ps := by
  obtain ⟨gap, word, rest, rfl, hgap, hword, hrest⟩ := h
  refine ⟨c :: gap, word, rest, rfl, ?_, hword, hrest⟩
  intro d hd
  rcases List.mem_cons.mp hd with rfl | hd
  · exact hc
  · exact hgap d hd

/-- A text that begins with a spelling is cut behind it. -/
theorem isCutAs_append {word : List Char} {p : Piece} (h : SpellsPiece word p) (rest : List Char) :
    IsCutAs (word ++ rest) p (pieces (shownChars rest)) :=
  ⟨[], word, rest, rfl, isFiller_nil, h, rfl⟩

/-- An operator of one character is spelled by it. -/
theorem spellsOperator_of_operatorOfChar? {c : Char} {o : Operator}
    (h : operatorOfChar? c = some o) : SpellsOperator [c] o := by
  fun_cases operatorOfChar? c with
  | case1 => cases h; exact .symbol .add
  | case2 => cases h; exact .symbol .sub
  | case3 => cases h; exact .symbol .mul
  | case4 => cases h; exact .symbol .div
  | case5 => cases h; exact .symbol .mod
  | case6 => simp_all [operatorOfChar?]

/-- A text that begins with a star is cut behind one star or two, unless a caret stands behind the
first: the lexer does not see where the star ends. -/
theorem cut_of_pieces_star {cs : List Char} {p : Piece} {ps : List Piece}
    (h : pieces ('*' :: shownChars cs) = p :: ps) :
    IsCutAs ('*' :: cs) p ps ∨ p = .operator .pow ∧ BeginsWithOperator ps := by
  have hone : (shownChars cs).head? ≠ some '*' → IsCutAs ('*' :: cs) p ps := by
    intro hhead
    rw [pieces_cons_of_operatorOfChar? rfl fun _ => hhead] at h
    cases h
    exact isCutAs_append (.operator (.symbol .mul)) _
  cases cs with
  | nil => exact .inl (hone (by simp))
  | cons d ds =>
      by_cases hstar : d = '*'
      · subst hstar
        rw [shownChars_cons_of_ne (by decide), pieces_star_star] at h
        cases h
        exact .inl (isCutAs_append (.operator (.symbol .pow)) _)
      · by_cases hcaret : d = '^'
        · subst hcaret
          rw [shownChars_caret, pieces_star_star] at h
          cases h
          exact .inr ⟨rfl, exists_pieces_star _⟩
        · exact .inl (hone (by rw [shownChars_cons_of_ne hcaret]; simpa using hstar))

/-- **A text is cut where the lexer cuts it,** or else the lexer takes a power, and goes on with an
operator that is no sign. -/
theorem cut_of_pieces_shownChars {cs : List Char} (hcs : ∀ c ∈ cs, isExpressionChar c = true)
    {p : Piece} {ps : List Piece} (h : pieces (shownChars cs) = p :: ps) :
    IsCutAs cs p ps ∨ p = .operator .pow ∧ BeginsWithOperator ps := by
  induction cs with
  | nil =>
      rw [shownChars_nil, pieces] at h
      cases h
  | cons c cs ih =>
      have hcs' : ∀ d ∈ cs, isExpressionChar d = true := fun d hd => hcs d (List.mem_cons_of_mem _ hd)
      rcases cases_of_isExpressionChar (hcs c List.mem_cons_self) with hd | hf | rfl | ⟨o, ho⟩
      · -- a digit: the run of digits is the same in the text and in what is shown
        have hd' := isDecimalDigit_of_isAsciiDigit hd
        rw [shownChars_cons_of_ne (ne_caret_of_isDecimalDigit hd'),
          pieces_cons_of_isDecimalDigit hd', takeWhile_shownChars, dropWhile_shownChars] at h
        cases h
        have hword : IsNumeral (c :: cs.takeWhile isDecimalDigit) := by
          refine ⟨List.cons_ne_nil _ _, fun d hmem => ?_⟩
          rcases List.mem_cons.mp hmem with rfl | hmem
          · exact hd
          · exact isAsciiDigit_of_isDecimalDigit (hcs' d (List.takeWhile_subset _ hmem))
              (List.all_eq_true.mp List.all_takeWhile d hmem)
        have hcut := isCutAs_append (.digits hword) (cs.dropWhile isDecimalDigit)
        rw [List.cons_append, List.takeWhile_append_dropWhile] at hcut
        exact .inl hcut
      · rw [shownChars_cons_of_ne (ne_caret_of_isFiller hf), pieces_cons_of_isFiller hf] at h
        exact (ih hcs' h).imp_left fun hcut => hcut.cons_filler hf
      · rw [shownChars_caret, pieces_star_star] at h
        cases h
        exact .inl (isCutAs_append (.operator .caret) _)
      · have hcaret : c ≠ '^' := by
          rintro rfl
          cases ho
        rw [shownChars_cons_of_ne hcaret] at h
        by_cases hstar : c = '*'
        · subst hstar
          exact cut_of_pieces_star h
        · rw [pieces_cons_of_operatorOfChar? ho fun hc => absurd hc hstar] at h
          cases h
          exact .inl (isCutAs_append (.operator (spellsOperator_of_operatorOfChar? ho)) _)

/-- Only a text without pieces has no tokens. -/
theorem eq_nil_of_joinSigns {signed : Bool} {ps : List Piece} (h : joinSigns signed ps = []) :
    ps = [] := by
  fun_cases joinSigns signed ps with
  | case1 => rfl
  | case2 | case3 | case4 => simp_all [joinSigns]

/-- A number where it may begin with a sign is a run of digits, or a sign and a run of digits. -/
theorem cases_of_joinSigns_true {ps : List Piece} {n : Literal} {ts : List Token}
    (h : joinSigns true ps = .number n :: ts) :
    ∃ qs, joinSigns false qs = ts ∧
      (ps = .digits n.digits :: qs ∧ n.sign = none ∨
        ∃ s, ps = .operator (Sign.operator s) :: .digits n.digits :: qs ∧ n.sign = some s) := by
  cases ps with
  | nil => cases h
  | cons p ps =>
      cases p with
      | digits ds =>
          rw [joinSigns] at h
          cases h
          exact ⟨ps, rfl, .inl ⟨rfl, rfl⟩⟩
      | operator o =>
          unfold joinSigns at h
          split at h
          · next s ds qs _ hs =>
            cases h
            exact ⟨qs, rfl, .inr ⟨s, by rw [eq_operator_of_signOf? hs], rfl⟩⟩
          · cases h

/-- Behind a number an operator is a piece. -/
theorem cases_of_joinSigns_false {ps : List Piece} {o : Operator} {ts : List Token}
    (h : joinSigns false ps = .operator o :: ts) :
    ∃ qs, ps = .operator o :: qs ∧ joinSigns true qs = ts := by
  cases ps with
  | nil => cases h
  | cons p ps =>
      cases p with
      | digits ds =>
          rw [joinSigns] at h
          cases h
      | operator o =>
          rw [joinSigns_false_operator] at h
          cases h
          exact ⟨ps, rfl, rfl⟩

/-- A number does not begin with an operator that is no sign. -/
theorem BeginsWithOperator.joinSigns_ne {ps : List Piece} (h : BeginsWithOperator ps) (n : Literal)
    (ts : List Token) : joinSigns true ps ≠ .number n :: ts := by
  intro hnumber
  obtain ⟨o, qs, rfl, ho⟩ := h
  obtain ⟨qs', -, ⟨hps, -⟩ | ⟨s, hps, -⟩⟩ := cases_of_joinSigns_true hnumber
  · cases hps
  · cases hps
    rw [s.signOf?_operator] at ho
    cases ho

/-- Every character but the fillers is seen. -/
theorem pieces_cons_ne_nil {c : Char} (hc : isExpressionChar c = true) (hf : isFiller c = false)
    (cs : List Char) : pieces (shownChars (c :: cs)) ≠ [] := by
  rcases cases_of_isExpressionChar hc with hd | hf' | rfl | ⟨o, ho⟩
  · have hd' := isDecimalDigit_of_isAsciiDigit hd
    rw [shownChars_cons_of_ne (ne_caret_of_isDecimalDigit hd'), pieces_cons_of_isDecimalDigit hd']
    exact List.cons_ne_nil _ _
  · rw [hf] at hf'
    cases hf'
  · rw [shownChars_caret, pieces_star_star]
    exact List.cons_ne_nil _ _
  · have hcaret : c ≠ '^' := by
      rintro rfl
      cases ho
    rw [shownChars_cons_of_ne hcaret]
    by_cases hstar : c = '*'
    · subst hstar
      obtain ⟨p, ps, hps, -⟩ := exists_pieces_star (shownChars cs)
      rw [hps]
      exact List.cons_ne_nil _ _
    · rw [pieces_cons_of_operatorOfChar? ho fun hc => absurd hc hstar]
      exact List.cons_ne_nil _ _

/-- A text without pieces is filler. -/
theorem isFiller_of_pieces_shownChars {cs : List Char} (hcs : ∀ c ∈ cs, isExpressionChar c = true)
    (h : pieces (shownChars cs) = []) : IsFiller cs := by
  induction cs with
  | nil => exact isFiller_nil
  | cons c cs ih =>
      cases hf : isFiller c with
      | false => exact absurd h (pieces_cons_ne_nil (hcs c List.mem_cons_self) hf cs)
      | true =>
          rw [shownChars_cons_of_ne (ne_caret_of_isFiller hf), pieces_cons_of_isFiller hf] at h
          intro d hd
          rcases List.mem_cons.mp hd with rfl | hd
          · exact hf
          · exact ih (fun e he => hcs e (List.mem_cons_of_mem _ he)) h d hd

/-- A text whose first piece is a run of digits begins, behind fillers, with the digits. -/
theorem exists_of_pieces_digits {cs : List Char} (hcs : ∀ c ∈ cs, isExpressionChar c = true)
    {ds : List Char} {ps : List Piece} (h : pieces (shownChars cs) = .digits ds :: ps) :
    ∃ gap rest, cs = gap ++ ds ++ rest ∧ IsFiller gap ∧ IsNumeral ds ∧
      pieces (shownChars rest) = ps := by
  rcases cut_of_pieces_shownChars hcs h with ⟨gap, word, rest, hcut, hgap, hword, hrest⟩ | ⟨hpow, -⟩
  · cases hword with
    | digits numeral => exact ⟨gap, rest, hcut, hgap, numeral, hrest⟩
  · cases hpow

/-- The operator of a sign has no spelling but the character of the sign. -/
theorem SpellsOperator.eq_of_sign {op : List Char} {s : Sign} (h : SpellsOperator op s.operator) :
    op = [s.char] := by
  generalize ho : s.operator = o at h
  cases h with
  | symbol => cases s <;> (cases ho; rfl)
  | caret => cases s <;> cases ho

/-- **A text whose first token is a number begins with its spelling.** -/
theorem exists_spellsNumber {cs : List Char} (hcs : ∀ c ∈ cs, isExpressionChar c = true)
    {n : Literal} {ts : List Token}
    (h : joinSigns true (pieces (shownChars cs)) = .number n :: ts) :
    ∃ gap num rest, cs = gap ++ num ++ rest ∧ IsFiller gap ∧ SpellsNumber num n ∧
      joinSigns false (pieces (shownChars rest)) = ts := by
  obtain ⟨sign, ds⟩ := n
  obtain ⟨qs, hqs, ⟨hps, hsign⟩ | ⟨s, hps, hsign⟩⟩ := cases_of_joinSigns_true h
  · obtain rfl : sign = none := hsign
    obtain ⟨gap, rest, rfl, hgap, hds, rfl⟩ := exists_of_pieces_digits hcs hps
    exact ⟨gap, ds, rest, rfl, hgap, .unsigned hds, hqs⟩
  · obtain rfl : sign = some s := hsign
    rcases cut_of_pieces_shownChars hcs hps with ⟨gap, word, tail, rfl, hgap, hword, htail⟩ | ⟨hpow, -⟩
    · cases hword with
      | operator spells =>
          obtain ⟨between, rest, rfl, hbetween, hds, rfl⟩ :=
            exists_of_pieces_digits (fun c hc => hcs c (List.mem_append_right _ hc)) htail
          refine ⟨gap, s.char :: between ++ ds, rest, ?_, hgap, .signed s hbetween hds, hqs⟩
          rw [spells.eq_of_sign]
          simp
    · cases s <;> cases hpow

/-- **A text with the tokens of links spells them.** -/
theorem spellsLinks_of_joinSigns {links : List (Operator × Literal)} {cs : List Char}
    (hcs : ∀ c ∈ cs, isExpressionChar c = true)
    (h : joinSigns false (pieces (shownChars cs)) = linkTokens links) : SpellsLinks cs links := by
  induction links generalizing cs with
  | nil => exact .nil (isFiller_of_pieces_shownChars hcs (eq_nil_of_joinSigns h))
  | cons link links ih =>
      obtain ⟨o, n⟩ := link
      rw [linkTokens_cons] at h
      obtain ⟨qs, hps, hqs⟩ := cases_of_joinSigns_false h
      rcases cut_of_pieces_shownChars hcs hps with ⟨before, op, tail, rfl, hbefore, hop, rfl⟩ | ⟨-, hno⟩
      · have htail : ∀ c ∈ tail, isExpressionChar c = true := fun c hc =>
          hcs c (List.mem_append_right _ hc)
        obtain ⟨between, num, rest, rfl, hbetween, hnum, hrest⟩ := exists_spellsNumber htail hqs
        cases hop with
        | operator spells =>
            have hlinks := ih (fun c hc => htail c (List.mem_append_right _ hc)) hrest
            have hcons := SpellsLinks.cons hbefore spells hbetween hnum hlinks
            simpa only [List.append_assoc] using hcons
      · exact absurd hqs (hno.joinSigns_ne n _)

/-- **A text of expression characters spells what its tokens say.** -/
theorem spells_iff_tokensOfChars {cs : List Char} (hcs : ∀ c ∈ cs, isExpressionChar c = true)
    {n : Literal} {links : List (Operator × Literal)} :
    Spells cs n links ↔ tokensOfChars (shownChars cs) = .number n :: linkTokens links := by
  constructor
  · exact Spells.tokensOfChars_eq
  · intro h
    obtain ⟨gap, num, rest, rfl, hgap, hnum, hrest⟩ := exists_spellsNumber hcs h
    refine .intro hgap hnum (spellsLinks_of_joinSigns (fun c hc => hcs c ?_) hrest)
    exact List.mem_append_right _ hc

end Calc

end LineShell
