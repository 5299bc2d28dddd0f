import LineShell.Proofs.Calc.Exponent
import LineShell.Proofs.Calc.Grammar
import LineShell.Proofs.Decimal.Canonical
import Mathlib.Data.Nat.Digits.Defs

/-!
# What the lexer makes of a text

A text that is shown for an expression is cut into fillers and pieces, whether it is well formed or not.
The cut is said without the lexer (`IsCutInto`): a run of digits has no digit behind it, and a single star
no star. It is the one that the lexer makes (`isCutInto_pieces`, `IsCutInto.pieces_eq`).

From the cut it follows that no piece is lost (`IsCutInto.flatMap_chars`), where in the text each piece
stands (`IsCutInto.exists_of_append`), and that a blank does as well as a parenthesis
(`IsCutInto.map_blankParenthesis`). Joining a sign to its numeral moves nothing
(`flatMap_chars_joinSigns`), so the same holds of tokens.

**Main statement** (`areLexemes_tokens_shown`): the tokens of whatever words make are all of its text but
the fillers, each numeral is a run of digits that nothing extends, and has the value that its text has.
-/

namespace LineShell

namespace Calc

/-! ### Characters that mean nothing -/

/-- What is left of a text when its fillers are taken out. -/
def charsWithoutFillers (cs : List Char) : List Char := cs.filter fun c => !isFiller c

/-- What is left of a text when its fillers are taken out. -/
def withoutFillers (text : String) : String := String.ofList (charsWithoutFillers text.toList)

/-- A blank in place of a parenthesis. -/
def blankParenthesis (c : Char) : Char := if c = '(' ∨ c = ')' then ' ' else c

/-- A text with blanks in place of its parentheses. -/
def blankParentheses (text : String) : String := String.ofList (text.toList.map blankParenthesis)

theorem charsWithoutFillers_append (as bs : List Char) :
    charsWithoutFillers (as ++ bs) = charsWithoutFillers as ++ charsWithoutFillers bs :=
  List.filter_append ..

theorem charsWithoutFillers_cons_of_isFiller {c : Char} (h : isFiller c = true) (cs : List Char) :
    charsWithoutFillers (c :: cs) = charsWithoutFillers cs := by
  simp [charsWithoutFillers, h]

/-- A text without fillers is left as it is. -/
theorem charsWithoutFillers_eq_self {cs : List Char} (h : ∀ c ∈ cs, isFiller c = false) :
    charsWithoutFillers cs = cs := by
  rw [charsWithoutFillers, List.filter_eq_self]
  intro c hc
  rw [h c hc]
  rfl

/-- A decimal digit is no filler. -/
theorem not_isFiller_of_isDecimalDigit {c : Char} (h : isDecimalDigit c = true) :
    isFiller c = false := by
  cases hf : isFiller c with
  | false => rfl
  | true =>
      rw [not_isDecimalDigit_of_isFiller hf] at h
      cases h

/-- The symbol of an operator has neither digits nor fillers in it. -/
theorem of_mem_symbol {o : Operator} {c : Char} (hc : c ∈ o.symbol.toList) :
    isDecimalDigit c = false ∧ isFiller c = false ∧ blankParenthesis c = c := by
  have hchar : c ∈ ['+', '-', '*', '/', '%'] := by
    cases o <;> simp_all [Operator.symbol]
  simp only [List.mem_cons, List.not_mem_nil, or_false] at hchar
  rcases hchar with rfl | rfl | rfl | rfl | rfl
  all_goals exact ⟨rfl, rfl, rfl⟩

/-- A decimal digit stays when parentheses give way. -/
theorem blankParenthesis_of_isDecimalDigit {c : Char} (h : isDecimalDigit c = true) :
    blankParenthesis c = c := by
  rw [blankParenthesis, if_neg]
  rintro (rfl | rfl)
  · exact absurd h (by decide)
  · exact absurd h (by decide)

/-- A text without parentheses stays. -/
theorem map_blankParenthesis_eq_self {cs : List Char} (h : ∀ c ∈ cs, blankParenthesis c = c) :
    cs.map blankParenthesis = cs :=
  (List.map_congr_left h).trans (List.map_id cs)

/-- A filler gives way to a filler. -/
theorem isFiller_blankParenthesis {c : Char} (h : isFiller c = true) :
    isFiller (blankParenthesis c) = true := by
  rw [blankParenthesis]
  split
  · rfl
  · exact h

/-! ### Cutting a text -/

/-- The spelling of a piece. -/
def Piece.chars : Piece → List Char
  | digits ds => ds
  | operator o => o.symbol.toList

/-- The spelling of a token, by its characters. -/
def Token.chars (t : Token) : List Char := t.text.toList

theorem Token.chars_number (n : Literal) : (Token.number n).chars = n.chars :=
  String.toList_ofList

theorem Token.chars_operator (o : Operator) : (Token.operator o).chars = o.symbol.toList := rfl

/-- How a text is cut into fillers and pieces. -/
inductive IsCutInto : List Char → List Piece → Prop where
  /-- The empty text has no pieces. -/
  | nil : IsCutInto [] []
  /-- A filler belongs to no piece. -/
  | filler {c : Char} {cs : List Char} {ps : List Piece} (filler : isFiller c = true)
      (rest : IsCutInto cs ps) : IsCutInto (c :: cs) ps
  /-- A run of digits, with no digit behind it. -/
  | digits {ds cs : List Char} {ps : List Piece} (numeral : IsNumeral ds)
      (ended : ∀ c ∈ cs.head?, isDecimalDigit c = false) (rest : IsCutInto cs ps) :
      IsCutInto (ds ++ cs) (.digits ds :: ps)
  /-- The symbol of an operator, which is two stars if it can be. -/
  | operator {o : Operator} {cs : List Char} {ps : List Piece}
      (single : o = .mul → ∀ c ∈ cs.head?, c ≠ '*') (rest : IsCutInto cs ps) :
      IsCutInto (o.symbol.toList ++ cs) (.operator o :: ps)

/-- Whether a text can be shown for an expression, well formed or not: it has characters of expressions,
and no caret. -/
def IsShown (cs : List Char) : Prop := ∀ c ∈ cs, isExpressionChar c = true ∧ c ≠ '^'

/-- What is shown for characters of expressions. -/
theorem isShown_shownChars {cs : List Char} (h : ∀ c ∈ cs, isExpressionChar c = true) :
    IsShown (shownChars cs) := by
  intro d hd
  obtain ⟨c, hc, hdc⟩ := List.mem_flatMap.mp hd
  by_cases hcaret : c = '^'
  · rw [if_pos hcaret] at hdc
    obtain rfl : d = '*' := by simpa using hdc
    decide
  · rw [if_neg hcaret, List.mem_singleton] at hdc
    subst hdc
    exact ⟨h d hc, hcaret⟩

/-- The operator of one character has it for its symbol. -/
theorem symbol_of_operatorOfChar? {c : Char} {o : Operator} (h : operatorOfChar? c = some o) :
    o.symbol.toList = [c] := by
  fun_cases operatorOfChar? c with
  | case1 | case2 | case3 | case4 | case5 => cases h; rfl
  | case6 => simp_all [operatorOfChar?]

/-- **The lexer cuts a text.** -/
theorem isCutInto_pieces {cs : List Char} (h : IsShown cs) : IsCutInto cs (pieces cs) := by
  fun_induction pieces cs with
  | case1 => exact .nil
  | case2 cs ih =>
      have hrest : IsShown cs := fun c hc => h c (List.mem_cons_of_mem _ (List.mem_cons_of_mem _ hc))
      exact .operator (o := .pow) (by simp) (ih hrest)
  | case3 c cs _ hdigit ih =>
      have hrest : IsShown (cs.dropWhile isDecimalDigit) :=
        fun d hd => h d (List.mem_cons_of_mem _ ((List.dropWhile_sublist _).subset hd))
      have hnumeral : IsNumeral (c :: cs.takeWhile isDecimalDigit) := by
        refine ⟨List.cons_ne_nil _ _, fun d hd => ?_⟩
        have hd' : isDecimalDigit d = true := by
          rcases List.mem_cons.mp hd with rfl | hd
          · exact hdigit
          · exact List.all_eq_true.mp List.all_takeWhile d hd
        have hmem : d ∈ c :: cs :=
          (List.mem_cons.mp hd).elim (fun heq => heq ▸ List.mem_cons_self)
            fun hd => List.mem_cons_of_mem _ (List.takeWhile_subset _ hd)
        exact isAsciiDigit_of_isDecimalDigit (h d hmem).1 hd'
      have hended : ∀ d ∈ (cs.dropWhile isDecimalDigit).head?, isDecimalDigit d = false := by
        intro d hd
        have hnot := List.head?_dropWhile_not isDecimalDigit cs
        rw [hd] at hnot
        simpa using hnot
      have hcut := IsCutInto.digits hnumeral hended (ih hrest)
      rwa [List.cons_append, List.takeWhile_append_dropWhile] at hcut
  | case4 c cs hstars _ o ho ih =>
      have hcut : IsCutInto cs (pieces cs) := ih fun d hd => h d (List.mem_cons_of_mem _ hd)
      have hsingle : o = .mul → ∀ d ∈ cs.head?, d ≠ '*' := by
        rintro rfl d hd rfl
        have hc : c = '*' := by simpa [Operator.symbol] using (symbol_of_operatorOfChar? ho).symm
        obtain ⟨ds, rfl⟩ := List.head?_eq_some_iff.mp hd
        exact hstars ds hc rfl
      have hop := IsCutInto.operator hsingle hcut
      rwa [symbol_of_operatorOfChar? ho] at hop
  | case5 c cs _ hdigit hop ih =>
      have hcut : IsCutInto cs (pieces cs) := ih fun d hd => h d (List.mem_cons_of_mem _ hd)
      obtain ⟨hchar, hcaret⟩ := h c List.mem_cons_self
      rcases cases_of_isExpressionChar hchar with hd | hf | hc | ⟨o, ho⟩
      · exact absurd (isDecimalDigit_of_isAsciiDigit hd) hdigit
      · exact .filler hf hcut
      · exact absurd hc hcaret
      · rw [hop] at ho
        cases ho

namespace IsCutInto

variable {cs : List Char} {ps : List Piece}

/-- **A text is cut in one way only.** -/
theorem pieces_eq (h : IsCutInto cs ps) : pieces cs = ps := by
  induction h with
  | nil => rw [pieces]
  | filler filler _ ih => rw [pieces_cons_of_isFiller filler, ih]
  | digits numeral ended _ ih =>
      rw [pieces_digits_append numeral.1 numeral.isDecimalDigit ended, ih]
  | @operator o cs ps single _ ih =>
      rw [← ih]
      cases o with
      | pow => exact pieces_star_star cs
      | mul => exact pieces_cons_of_operatorOfChar? rfl fun _ hstar => single rfl '*' hstar rfl
      | add | sub | div | mod =>
          exact pieces_cons_of_operatorOfChar? rfl fun hstar => absurd hstar (by decide)

/-- **No piece is lost:** the pieces are all of the text but the fillers. -/
theorem flatMap_chars (h : IsCutInto cs ps) : ps.flatMap Piece.chars = charsWithoutFillers cs := by
  induction h with
  | nil => rfl
  | filler filler _ ih => rw [charsWithoutFillers_cons_of_isFiller filler, ih]
  | @digits ds cs ps numeral _ _ ih =>
      have hds : charsWithoutFillers ds = ds :=
        charsWithoutFillers_eq_self fun d hd =>
          not_isFiller_of_isDecimalDigit (numeral.isDecimalDigit d hd)
      rw [List.flatMap_cons, ih, charsWithoutFillers_append, hds, Piece.chars]
  | @operator o cs ps _ _ ih =>
      have ho : charsWithoutFillers o.symbol.toList = o.symbol.toList :=
        charsWithoutFillers_eq_self fun c hc => (of_mem_symbol hc).2.1
      rw [List.flatMap_cons, ih, charsWithoutFillers_append, ho, Piece.chars]

/-- A text without pieces is filler. -/
theorem isFiller_of_nil (h : IsCutInto cs []) : IsFiller cs := by
  generalize hps : ([] : List Piece) = ps at h
  induction h with
  | nil => exact isFiller_nil
  | filler filler _ ih => exact List.forall_mem_cons.mpr ⟨filler, ih hps⟩
  | digits _ _ _ => cases hps
  | operator _ _ => cases hps

/-- What can be said of a blank and of the first character of a text can be said of the first character
when parentheses have given way. -/
theorem forall_head?_map_blankParenthesis {p : Char → Prop} (hblank : p ' ')
    (h : ∀ c ∈ cs.head?, p c) : ∀ c ∈ (cs.map blankParenthesis).head?, p c := by
  intro c hc
  rw [List.head?_map] at hc
  obtain ⟨b, hb, rfl⟩ := Option.map_eq_some_iff.mp hc
  rw [blankParenthesis]
  split
  · exact hblank
  · exact h b hb

/-- **A blank does as well as a parenthesis.** -/
theorem map_blankParenthesis (h : IsCutInto cs ps) : IsCutInto (cs.map blankParenthesis) ps := by
  induction h with
  | nil => exact .nil
  | filler filler _ ih => exact .filler (isFiller_blankParenthesis filler) ih
  | @digits ds cs ps numeral ended _ ih =>
      have hds : ds.map blankParenthesis = ds := map_blankParenthesis_eq_self fun d hd =>
        blankParenthesis_of_isDecimalDigit (numeral.isDecimalDigit d hd)
      rw [List.map_append, hds]
      exact .digits numeral (forall_head?_map_blankParenthesis (by decide) ended) ih
  | @operator o cs ps single _ ih =>
      have ho : o.symbol.toList.map blankParenthesis = o.symbol.toList :=
        map_blankParenthesis_eq_self fun c hc => (of_mem_symbol hc).2.2
      rw [List.map_append, ho]
      exact .operator (fun hmul => forall_head?_map_blankParenthesis (by decide) (single hmul)) ih

/-! ### Where a piece stands -/

/-- What can be said of the last character of a text that is not empty can be said of it behind
another. -/
theorem forall_getLast?_append {as bs : List Char} {p : Char → Prop} (hbs : ∀ c ∈ bs.getLast?, p c)
    (has : bs = [] → ∀ c ∈ as.getLast?, p c) : ∀ c ∈ (as ++ bs).getLast?, p c := by
  cases bs with
  | nil =>
      rw [List.append_nil]
      exact has rfl
  | cons b bs =>
      rw [List.getLast?_append_of_ne_nil as (List.cons_ne_nil b bs)]
      exact hbs

/-- What can be said of the first character of a text can be said of the first character of its
beginning. -/
theorem forall_head?_of_append {as bs : List Char} {p : Char → Prop}
    (h : ∀ c ∈ (as ++ bs).head?, p c) : ∀ c ∈ as.head?, p c := by
  intro c hc
  obtain ⟨cs, rfl⟩ := List.head?_eq_some_iff.mp hc
  exact h c rfl

/-- Whether nothing before or behind a piece extends it to a longer run of digits. -/
def IsMaximal (left : List Char) (p : Piece) (right : List Char) : Prop :=
  ∀ ds, p = .digits ds → IsNumeral ds ∧ (∀ c ∈ left.getLast?, isDecimalDigit c = false) ∧
    ∀ c ∈ right.head?, isDecimalDigit c = false

/-- **Every piece has its place:** what stands before it is cut into the pieces before it, and what stands
behind it into the others. -/
theorem exists_of_append {p : Piece} {qs : List Piece} (h : IsCutInto cs (ps ++ p :: qs)) :
    ∃ left right, cs = left ++ p.chars ++ right ∧ IsCutInto left ps ∧ IsCutInto right qs ∧
      IsMaximal left p right := by
  generalize hall : ps ++ p :: qs = all at h
  induction h generalizing ps with
  | nil => simp at hall
  | @filler c cs all filler _ ih =>
      obtain ⟨left, right, rfl, hleft, hright, hmax⟩ := ih hall
      refine ⟨c :: left, right, rfl, .filler filler hleft, hright, fun ds hds => ?_⟩
      obtain ⟨hnumeral, hlast, hhead⟩ := hmax ds hds
      have hbefore : ∀ d ∈ ([c] ++ left).getLast?, isDecimalDigit d = false := by
        refine forall_getLast?_append hlast fun _ d hd => ?_
        obtain rfl : c = d := by simpa using hd
        exact not_isDecimalDigit_of_isFiller filler
      exact ⟨hnumeral, hbefore, hhead⟩
  | @digits ds cs all numeral ended rest ih =>
      cases ps with
      | nil =>
          cases hall
          refine ⟨[], cs, rfl, .nil, rest, fun es hes => ?_⟩
          cases hes
          exact ⟨numeral, by simp, ended⟩
      | cons q ps =>
          cases hall
          obtain ⟨left, right, rfl, hleft, hright, hmax⟩ := ih rfl
          rw [List.append_assoc] at ended
          refine ⟨ds ++ left, right, by simp, .digits numeral (forall_head?_of_append ended) hleft,
            hright, fun es hes => ?_⟩
          obtain ⟨hnumeral, hlast, hhead⟩ := hmax es hes
          refine ⟨hnumeral, forall_getLast?_append hlast ?_, hhead⟩
          -- two runs of digits do not touch
          rintro rfl
          obtain ⟨e, es, rfl⟩ := List.exists_cons_of_ne_nil hnumeral.1
          rw [hes] at ended
          have he := hnumeral.isDecimalDigit e List.mem_cons_self
          rw [ended e rfl] at he
          cases he
  | @operator o cs all single rest ih =>
      cases ps with
      | nil =>
          cases hall
          exact ⟨[], cs, rfl, .nil, rest, fun ds hds => nomatch hds⟩
      | cons q ps =>
          cases hall
          obtain ⟨left, right, rfl, hleft, hright, hmax⟩ := ih rfl
          refine ⟨o.symbol.toList ++ left, right, by simp, .operator (fun hmul => ?_) hleft, hright,
            fun ds hds => ?_⟩
          · have hfirst := single hmul
            rw [List.append_assoc] at hfirst
            exact forall_head?_of_append hfirst
          · obtain ⟨hnumeral, hlast, hhead⟩ := hmax ds hds
            refine ⟨hnumeral, forall_getLast?_append hlast fun _ c hc => ?_, hhead⟩
            exact (of_mem_symbol (List.mem_of_getLast? hc)).1

end IsCutInto

/-! ### Signs -/

/-- The pieces that a numeral is made of: the operator that is its sign, if it has one, and its digits. -/
def Literal.pieces (n : Literal) : List Piece :=
  (n.sign.map fun s => Piece.operator s.operator).toList ++ [.digits n.digits]

/-- The character of a sign is the symbol of its operator. -/
theorem Sign.symbol_operator (s : Sign) : s.operator.symbol.toList = [s.char] := by
  cases s <;> rfl

/-- A numeral is spelled as its pieces are. -/
theorem Literal.flatMap_chars_pieces (n : Literal) : n.pieces.flatMap Piece.chars = n.chars := by
  obtain ⟨_ | s, ds⟩ := n
  · simp [Literal.pieces, Literal.chars, Piece.chars]
  · simp [Literal.pieces, Literal.chars, Piece.chars, s.symbol_operator]

/-- How pieces make tokens: each numeral is made of its pieces, and has a sign only where it may begin with
one, which is where the flag is set and behind operators. -/
inductive IsJoinedInto : Bool → List Piece → List Token → Prop where
  /-- Without pieces there are no tokens. -/
  | nil {signed : Bool} : IsJoinedInto signed [] []
  /-- A numeral. -/
  | number {signed : Bool} {n : Literal} {ps : List Piece} {ts : List Token}
      (atSign : n.sign ≠ none → signed = true) (rest : IsJoinedInto false ps ts) :
      IsJoinedInto signed (n.pieces ++ ps) (.number n :: ts)
  /-- An operator. -/
  | operator {signed : Bool} {o : Operator} {ps : List Piece} {ts : List Token}
      (rest : IsJoinedInto true ps ts) : IsJoinedInto signed (.operator o :: ps) (.operator o :: ts)

/-- **The lexer joins signs.** -/
theorem isJoinedInto_joinSigns (signed : Bool) (ps : List Piece) :
    IsJoinedInto signed ps (joinSigns signed ps) := by
  fun_induction joinSigns signed ps with
  | case1 => exact .nil
  | case2 _ ds ps ih => exact .number (n := ⟨none, ds⟩) (by simp) ih
  | case3 o s ds ps ho ih =>
      obtain rfl := eq_operator_of_signOf? ho
      exact .number (n := ⟨some s, ds⟩) (by simp) ih
  | case4 _ o ps _ ih => exact .operator ih

namespace IsJoinedInto

variable {signed : Bool} {ps : List Piece} {ts : List Token}

/-- **Joining signs moves nothing.** -/
theorem flatMap_chars (h : IsJoinedInto signed ps ts) :
    ts.flatMap Token.chars = ps.flatMap Piece.chars := by
  induction h with
  | nil => rfl
  | @number _ n _ _ _ _ ih =>
      rw [List.flatMap_cons, List.flatMap_append, n.flatMap_chars_pieces, ih, Token.chars_number]
  | @operator _ o _ _ _ ih =>
      rw [List.flatMap_cons, List.flatMap_cons, ih, Token.chars_operator, Piece.chars]

/-- **Every numeral has its pieces:** those before them make the tokens before it, and those behind them the
others. -/
theorem exists_of_append {n : Literal} {us vs : List Token}
    (h : IsJoinedInto signed ps (us ++ .number n :: vs)) :
    ∃ before behind b, ps = before ++ (n.pieces ++ behind) ∧ IsJoinedInto signed before us ∧
      IsJoinedInto b behind vs := by
  generalize hall : us ++ Token.number n :: vs = all at h
  induction h generalizing us with
  | nil => simp at hall
  | @number _ m ps all atSign rest ih =>
      cases us with
      | nil =>
          cases hall
          exact ⟨[], ps, false, rfl, .nil, rest⟩
      | cons u us =>
          cases hall
          obtain ⟨before, behind, b, rfl, hbefore, hbehind⟩ := ih rfl
          exact ⟨m.pieces ++ before, behind, b, by simp, .number atSign hbefore, hbehind⟩
  | @operator _ o ps all rest ih =>
      cases us with
      | nil => cases hall
      | cons u us =>
          cases hall
          obtain ⟨before, behind, b, rfl, hbefore, hbehind⟩ := ih rfl
          exact ⟨.operator o :: before, behind, b, rfl, .operator hbefore, hbehind⟩

/-- **A sign stands at the start or behind an operator.** -/
theorem eq_nil_or_getLast? {n : Literal} {us vs : List Token}
    (h : IsJoinedInto signed ps (us ++ .number n :: vs)) (hsign : n.sign ≠ none) :
    us = [] ∧ signed = true ∨ ∃ o, us.getLast? = some (.operator o) := by
  generalize hall : us ++ Token.number n :: vs = all at h
  induction h generalizing us with
  | nil => simp at hall
  | @number _ m _ _ atSign _ ih =>
      cases us with
      | nil =>
          cases hall
          exact .inl ⟨rfl, atSign hsign⟩
      | cons u us =>
          cases hall
          rcases ih rfl with ⟨-, hfalse⟩ | ⟨o, ho⟩
          · cases hfalse
          · exact .inr ⟨o, by simp [List.getLast?_cons, ho]⟩
  | @operator _ o _ _ _ ih =>
      cases us with
      | nil => cases hall
      | cons u us =>
          cases hall
          rcases ih rfl with ⟨rfl, -⟩ | ⟨p, hp⟩
          · exact .inr ⟨o, rfl⟩
          · exact .inr ⟨p, by simp [List.getLast?_cons, hp]⟩

end IsJoinedInto

/-! ### Lexemes -/

/-- Whether a numeral stands in a text between other tokens: its sign, if it has one, and then its digits,
which may have fillers before them if there is a sign. -/
structure StandsBetween (cs : List Char) (us : List Token) (n : Literal) (vs : List Token)
    (left gap right : List Char) : Prop where
  /-- The text. -/
  text : cs = left ++ (n.sign.map Sign.char).toList ++ gap ++ n.digits ++ right
  /-- Between sign and digits there are fillers, and there is nothing before the digits without a sign. -/
  filler : IsFiller gap ∧ (n.sign = none → gap = [])
  /-- What stands before it is the tokens before it. -/
  before : us.flatMap Token.chars = charsWithoutFillers left
  /-- What stands behind it is the tokens behind it. -/
  behind : vs.flatMap Token.chars = charsWithoutFillers right
  /-- The digits are digits, and nothing before or behind them extends them. -/
  maximal : IsNumeral n.digits ∧
    (∀ c ∈ (left ++ (n.sign.map Sign.char).toList ++ gap).getLast?, isDecimalDigit c = false) ∧
      ∀ c ∈ right.head?, isDecimalDigit c = false

/-- **Every numeral has its place in the text.** -/
theorem exists_standsBetween {cs : List Char} (hcs : IsShown cs) {n : Literal} {us vs : List Token}
    (h : tokensOfChars cs = us ++ .number n :: vs) :
    ∃ left gap right, StandsBetween cs us n vs left gap right := by
  have hjoined := isJoinedInto_joinSigns true (pieces cs)
  rw [← tokensOfChars, h] at hjoined
  obtain ⟨before, behind, b, hpieces, hbefore, hbehind⟩ := hjoined.exists_of_append
  have hcut := isCutInto_pieces hcs
  obtain ⟨_ | s, ds⟩ := n
  · have hps : pieces cs = before ++ .digits ds :: behind := hpieces
    rw [hps] at hcut
    obtain ⟨left, right, rfl, hleft, hright, hmax⟩ := hcut.exists_of_append
    refine ⟨left, [], right, by simp [Piece.chars], ⟨isFiller_nil, fun _ => rfl⟩, ?_, ?_, ?_⟩
    · rw [hbefore.flatMap_chars, hleft.flatMap_chars]
    · rw [hbehind.flatMap_chars, hright.flatMap_chars]
    · simpa using hmax ds rfl
  · have hps : pieces cs = (before ++ [.operator s.operator]) ++ .digits ds :: behind := by
      rw [hpieces]
      simp [Literal.pieces]
    rw [hps] at hcut
    obtain ⟨signed, right, rfl, hsigned, hright, hmax⟩ := hcut.exists_of_append
    obtain ⟨left, gap, rfl, hleft, hgap, -⟩ := hsigned.exists_of_append
    refine ⟨left, gap, right, by simp [Piece.chars, s.symbol_operator],
      ⟨hgap.isFiller_of_nil, by simp⟩, ?_, ?_, ?_⟩
    · rw [hbefore.flatMap_chars, hleft.flatMap_chars]
    · rw [hbehind.flatMap_chars, hright.flatMap_chars]
    · simpa [Piece.chars, s.symbol_operator] using hmax ds rfl

/-! ### Values -/

/-- The value of an ASCII digit. -/
def asciiDigitValue (c : Char) : Nat := c.toNat - 48

/-- The whole number that a numeral writes by the places of its digits. -/
def Literal.positional (n : Literal) : Int :=
  (if n.sign = some .minus then -1 else 1) *
    (Nat.ofDigits 10 (n.digits.reverse.map asciiDigitValue) : Nat)

/-- A text of ASCII digits writes a number by the places of its digits. -/
theorem ofDigits_eq_natOfDigits {ds : List Char} (h : ∀ d ∈ ds, isAsciiDigit d = true) :
    ofDigits ds = Nat.ofDigits 10 (ds.reverse.map asciiDigitValue) := by
  have hvalues : ds.map (fun c => (digitValue? c).getD 0) = ds.map asciiDigitValue := by
    refine List.map_congr_left fun d hd => ?_
    rw [digitValue?_of_isAsciiDigit (h d hd), Option.getD_some, asciiDigitValue]
  rw [ofDigits, hvalues, ofDigitValues, List.map_reverse, Nat.ofDigits_eq_foldr, List.foldr_reverse]
  simp only [Nat.cast_id, Nat.add_comm]

/-- A numeral has the value of its digits by their places. -/
theorem Literal.value_eq_positional {n : Literal} (h : IsNumeral n.digits) :
    n.value = .ofInt n.positional := by
  rw [Literal.value, Literal.toInt, Literal.positional, ofDigits_eq_natOfDigits h.2]
  split
  · rw [Int.neg_one_mul]
  · rw [Int.one_mul]

/-- A numeral that is no longer than the notation reaches is read as its value. -/
theorem Literal.read?_text {n : Literal} (h : IsNumeral n.digits)
    (hlength : (n.digits.length : Int) ≤ Decimal.maxLeadingExponent) :
    Decimal.read? (Token.number n).text = some n.value := by
  let f : Decimal.Spelling :=
    { sign := n.sign
      whole := n.digits
      fraction := none
      isDecimalDigit_of_mem := by simpa using h.isDecimalDigit
      digits_ne_nil := by simpa using h.1 }
  have htext : f.text = (Token.number n).text := by
    simp [f, Decimal.Spelling.text, Decimal.Spelling.chars, Decimal.Spelling.body,
      Decimal.Spelling.ending, Token.text, Literal.chars]
  have hnumber : f.number = n.value := by
    simp [f, Decimal.Spelling.number, Decimal.Spelling.digits, Decimal.Spelling.places,
      Decimal.Spelling.isNegative, Literal.value, Literal.toInt, Decimal.ofInt]
  have hplaceable : f.number.isPlaceable = true := by
    have hcount : n.value.digitCount ≤ n.digits.length :=
      (Numeral.length_le_iff (List.length_pos_of_ne_nil h.1)).mpr n.natAbs_toInt_lt
    have hexponent : n.value.exponent = 0 := rfl
    have hmin : Decimal.minExponent ≤ 0 := by decide
    rw [hnumber, Decimal.isPlaceable_iff, Decimal.leadingExponent_eq, hexponent]
    omega
  rw [← htext, Decimal.Spelling.read?_text, if_pos hplaceable, hnumber]

/-- A text is shown with twice its characters at most. -/
theorem length_shownChars_le (cs : List Char) : (shownChars cs).length ≤ 2 * cs.length := by
  induction cs with
  | nil => simp
  | cons c cs ih =>
      by_cases hc : c = '^'
      · subst hc
        rw [shownChars_caret, List.length_cons, List.length_cons, List.length_cons]
        omega
      · rw [shownChars_cons_of_ne hc, List.length_cons, List.length_cons]
        omega

/-! ### All tokens of a text -/

/-- Whether tokens are those that a text is made of. -/
structure AreLexemes (text : String) (ts : List Token) : Prop where
  /-- One behind the other they are the text without its fillers. -/
  join_text : String.join (ts.map Token.text) = withoutFillers text
  /-- Each numeral stands in the text where it stands among the tokens, and nothing extends its digits. -/
  stands : ∀ us n vs, ts = us ++ .number n :: vs →
    ∃ left gap right, StandsBetween text.toList us n vs left gap right
  /-- Each numeral has the value that its text is read as, and that its digits have by their places. -/
  value : ∀ n, .number n ∈ ts →
    Decimal.read? (Token.number n).text = some n.value ∧ n.value = .ofInt n.positional
  /-- A numeral has a sign at the start or directly behind an operator only. -/
  signed : ∀ us n vs, ts = us ++ .number n :: vs → n.sign ≠ none →
    us = [] ∨ ∃ o, us.getLast? = some (.operator o)

/-- Parentheses are shown as they are, and so are blanks in their place. -/
theorem shownChars_map_blankParenthesis (cs : List Char) :
    shownChars (cs.map blankParenthesis) = (shownChars cs).map blankParenthesis := by
  induction cs with
  | nil => rfl
  | cons c cs ih =>
      by_cases hc : c = '^'
      · subst hc
        rw [List.map_cons, shownChars_caret, List.map_cons, List.map_cons, ← ih]
        rfl
      · have hblank : blankParenthesis c ≠ '^' := by
          rw [blankParenthesis]
          split
          · decide
          · exact hc
        rw [List.map_cons, shownChars_cons_of_ne hblank, shownChars_cons_of_ne hc, List.map_cons, ih]

/-- **The lexer loses nothing.** Of whatever words make, well formed or not, the tokens are all that is
shown but the fillers, in order; each numeral is an optional sign and a run of digits that nothing extends,
with the value that its text has, and a sign belongs to a numeral at the start or behind an operator only.
Blanks in place of the parentheses do not change the tokens. -/
theorem areLexemes_tokens_shown {ws : List String} {text : String} (h : normalize ws = .ok text) :
    AreLexemes (shown text) (tokens (shown text)) ∧
      tokens (shown (blankParentheses text)) = tokens (shown text) := by
  obtain ⟨-, -, hshort, hchars⟩ := normalize_eq_ok_iff.mp h
  have hshown : IsShown (shownChars text.toList) := isShown_shownChars hchars
  have hcut := isCutInto_pieces hshown
  have hjoined := isJoinedInto_joinSigns true (pieces (shownChars text.toList))
  have htext : (shown text).toList = shownChars text.toList := String.toList_ofList
  have hstands : ∀ us n vs, tokens (shown text) = us ++ .number n :: vs →
      ∃ left gap right, StandsBetween (shown text).toList us n vs left gap right := by
    intro us n vs hts
    rw [tokens_shown] at hts
    rw [htext]
    exact exists_standsBetween hshown hts
  refine ⟨⟨?_, hstands, ?_, ?_⟩, ?_⟩
  · rw [tokens_shown, withoutFillers, htext, ← hcut.flatMap_chars, ← hjoined.flatMap_chars,
      ← String.toList_inj, String.toList_join, String.toList_ofList, List.flatMap_map]
    rfl
  · intro n hn
    obtain ⟨us, vs, hts⟩ := List.append_of_mem hn
    obtain ⟨left, gap, right, hplace⟩ := hstands us n vs hts
    have hnumeral := hplace.maximal.1
    have hlength : n.digits.length ≤ 2 * maxInput := by
      have htotal := congrArg List.length hplace.text
      have hdouble := length_shownChars_le text.toList
      rw [htext] at htotal
      simp only [List.length_append] at htotal
      rw [← String.length_toList] at hshort
      omega
    have hreach : (n.digits.length : Int) ≤ Decimal.maxLeadingExponent :=
      Int.le_trans (Int.ofNat_le.mpr hlength) (by decide)
    exact ⟨Literal.read?_text hnumeral hreach, Literal.value_eq_positional hnumeral⟩
  · intro us n vs hts hsign
    rw [tokens_shown, tokensOfChars] at hts
    rw [hts] at hjoined
    exact (hjoined.eq_nil_or_getLast? hsign).imp_left And.left
  · rw [tokens_shown, tokens_shown, blankParentheses, String.toList_ofList,
      shownChars_map_blankParenthesis, tokensOfChars, tokensOfChars, hcut.map_blankParenthesis.pieces_eq]

/-- A text that is no expression: two numerals side by side, a sign before a parenthesis, and two powers
without a number between them. -/
theorem areLexemes_tokens_of_malformed :
    normalize ["1 2)(*", "-(03)^^4", "+5"] = .ok "1 2)(* -(03)^^4 +5" ∧
      String.join ((tokens (shown "1 2)(* -(03)^^4 +5")).map Token.text) = "12*-03****4+5" ∧
      Decimal.read? "-03" = some ⟨-3, 0⟩ ∧
      tokens (shown "1 2  * - 03 ^^4 +5") = tokens (shown "1 2)(* -(03)^^4 +5") := by
  have hwords : normalize ["1 2)(*", "-(03)^^4", "+5"] = .ok "1 2)(* -(03)^^4 +5" := by rfl
  obtain ⟨hlexemes, hblank⟩ := areLexemes_tokens_shown hwords
  have hmem : .number ⟨some .minus, ['0', '3']⟩ ∈ tokens (shown "1 2)(* -(03)^^4 +5") := by
    decide +kernel
  refine ⟨hwords, ?_, (hlexemes.value _ hmem).1, hblank⟩
  rw [hlexemes.join_text]
  decide +kernel

end Calc

end LineShell
