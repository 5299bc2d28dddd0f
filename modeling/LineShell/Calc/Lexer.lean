import LineShell.Calc.Token

/-!
# From text to tokens

The lexer first cuts a text into digit runs and operators and skips all else, parentheses among
it, then joins signs to numerals: a plus or a minus directly before a digit run is the sign of the
numeral when it stands at the start or behind an operator. Two stars are one operator, and a digit
run is taken as long as it can be.

Main statements: `digits_ne_nil_of_mem_pieces` and `isDecimalDigit_of_mem_pieces`, which say of
what a digit run consists.
-/

namespace LineShell

namespace Calc

/-- What the lexer finds before signs are joined to numerals. -/
inductive Piece where
  /-- A longest run of digits. -/
  | digits (ds : List Char)
  /-- An operator. -/
  | operator (o : Operator)
deriving DecidableEq, Repr

/-- The operator that a single character spells. -/
def operatorOfChar? : Char → Option Operator
  | '+' => some .add
  | '-' => some .sub
  | '*' => some .mul
  | '/' => some .div
  | '%' => some .mod
  | _ => none

/-- The digit runs and operators of a text, in order. -/
def pieces : List Char → List Piece
  | [] => []
  | '*' :: '*' :: cs => .operator .pow :: pieces cs
  | c :: cs =>
      if isDecimalDigit c then
        .digits (c :: cs.takeWhile isDecimalDigit) :: pieces (cs.dropWhile isDecimalDigit)
      else match operatorOfChar? c with
        | some o => .operator o :: pieces cs
        | none => pieces cs
termination_by cs => cs.length
decreasing_by
  all_goals simp only [List.length_cons]
  all_goals have := (List.dropWhile_sublist (l := cs) isDecimalDigit).length_le
  all_goals omega

/-- The sign that an operator is when it stands where a numeral may begin. -/
def signOf? : Operator → Option Sign
  | .add => some .plus
  | .sub => some .minus
  | _ => none

/-- Signs joined to their numerals. The flag says whether a numeral may begin here with a sign:
at the start and behind an operator. -/
def joinSigns : Bool → List Piece → List Token
  | _, [] => []
  | _, .digits ds :: ps => .number ⟨none, ds⟩ :: joinSigns false ps
  | signed, .operator o :: ps =>
      match signed, signOf? o, ps with
      | true, some s, .digits ds :: ps' => .number ⟨some s, ds⟩ :: joinSigns false ps'
      | _, _, ps => .operator o :: joinSigns true ps

/-- The tokens of a text. -/
def tokensOfChars (cs : List Char) : List Token := joinSigns true (pieces cs)

/-- The tokens of a text. -/
def tokens (s : String) : List Token := tokensOfChars s.toList

/-! ### What a digit run is -/

theorem digits_ne_nil_of_mem_pieces {cs ds : List Char} (h : .digits ds ∈ pieces cs) :
    ds ≠ [] := by
  fun_induction pieces cs with
  | case1 => cases h
  | case2 cs ih => simp at h; exact ih h
  | case3 c cs _ hc ih =>
      rcases List.mem_cons.mp h with h | h
      · cases h; simp
      · exact ih h
  | case4 c cs _ _ o _ ih => simp at h; exact ih h
  | case5 c cs _ _ _ ih => exact ih h

theorem isDecimalDigit_of_mem_pieces {cs ds : List Char} (h : .digits ds ∈ pieces cs) {d : Char}
    (hd : d ∈ ds) : isDecimalDigit d = true := by
  fun_induction pieces cs with
  | case1 => cases h
  | case2 cs ih => simp at h; exact ih h
  | case3 c cs _ hc ih =>
      rcases List.mem_cons.mp h with h | h
      · cases h
        rcases List.mem_cons.mp hd with rfl | hd
        · exact hc
        · exact List.all_eq_true.mp (List.all_takeWhile (l := cs)) d hd
      · exact ih h
  | case4 c cs _ _ o _ ih => simp at h; exact ih h
  | case5 c cs _ _ _ ih => exact ih h

end Calc

end LineShell
