import LineShell.Decimal.Reader
import LineShell.Json.Basic

/-!
# Tokens of JSON

A JSON text is a list of tokens with white space between them: brackets, commas, colons, texts,
and values of one word. What is no token becomes the token `bad`, so that a reader can go through
a text as far as it makes sense.

Beside the words of the standard, `NaN` and the infinities are values. A numeral of a whole number
may be as long as `Numeral.maxDigits`.
-/

namespace LineShell

namespace Json

/-- A token of JSON. -/
inductive Token where
  /-- A bracket that opens a list. -/
  | openList
  /-- A bracket that closes a list. -/
  | closeList
  /-- A brace that opens an object. -/
  | openObject
  /-- A brace that closes an object. -/
  | closeObject
  /-- A comma. -/
  | comma
  /-- A colon. -/
  | colon
  /-- A text. -/
  | text (s : WideText)
  /-- A value of one word. -/
  | scalar (v : Json)
  /-- What is no token. -/
  | bad
deriving Repr

/-! ### Texts -/

/-- The inside of a text up to its closing mark, escapes included, and what follows the mark. -/
def cutText? : List Char → Option (List Char × List Char)
  | [] => none
  | '"' :: cs => some ([], cs)
  | '\\' :: c :: cs => (cutText? cs).map fun p => ('\\' :: c :: p.1, p.2)
  | c :: cs => (cutText? cs).map fun p => (c :: p.1, p.2)

theorem length_lt_of_cutText? {cs body rest : List Char} (h : cutText? cs = some (body, rest)) :
    rest.length < cs.length := by
  fun_induction cutText? cs generalizing body with
  | case1 => cases h
  | case2 cs => simp only [Option.some.injEq, Prod.mk.injEq] at h; simp [h.2]
  | case3 c cs ih =>
      obtain ⟨p, hp, hq⟩ := Option.map_eq_some_iff.mp h
      cases hq
      have := ih hp
      simp only [List.length_cons]
      omega
  | case4 c cs _ _ ih =>
      obtain ⟨p, hp, hq⟩ := Option.map_eq_some_iff.mp h
      cases hq
      have := ih hp
      simp only [List.length_cons]
      omega

/-- The value of a hexadecimal digit. -/
def hexValue? (c : Char) : Option Nat :=
  if '0' ≤ c ∧ c ≤ '9' then some (c.toNat - 48)
  else if 'a' ≤ c ∧ c ≤ 'f' then some (c.toNat - 87)
  else if 'A' ≤ c ∧ c ≤ 'F' then some (c.toNat - 55)
  else none

/-- The number that hexadecimal digits write. -/
def hexNumber? (ds : List Char) : Option Nat :=
  ds.foldlM (fun n c => (hexValue? c).map (16 * n + ·)) 0

/-- The character that an escape of one letter means. -/
def escapedChar? : Char → Option Char
  | '"' => some '"'
  | '\\' => some '\\'
  | '/' => some '/'
  | 'b' => some '\x08'
  | 'f' => some '\x0c'
  | 'n' => some '\n'
  | 'r' => some '\r'
  | 't' => some '\t'
  | _ => none

/-- The numbers of the characters that the inside of a text means; an escaped surrogate is a
number by itself. Control characters must be escaped. -/
def codes? : List Char → Option (List Nat)
  | [] => some []
  | '\\' :: 'u' :: a :: b :: c :: d :: cs => do
      let n ← hexNumber? [a, b, c, d]
      return n :: (← codes? cs)
  | '\\' :: c :: cs => do
      let e ← escapedChar? c
      return e.toNat :: (← codes? cs)
  | c :: cs => if c = '\\' ∨ c.toNat < 0x20 then none else (codes? cs).map (c.toNat :: ·)

/-- Whether a number is the first half of a pair of surrogates. -/
def isHighSurrogate (n : Nat) : Bool := 0xD800 ≤ n && n < 0xDC00

/-- Whether a number is the second half of a pair of surrogates. -/
def isLowSurrogate (n : Nat) : Bool := 0xDC00 ≤ n && n < 0xE000

/-- The code points of numbers, with pairs of surrogates joined; a surrogate without its partner stays
what it is. -/
def joinSurrogates : List Nat → List CodePoint
  | [] => []
  | [n] => [.ofNat n]
  | n :: m :: ns =>
      if isHighSurrogate n && isLowSurrogate m then
        .char (Char.ofNat (0x10000 + (n - 0xD800) * 0x400 + (m - 0xDC00))) :: joinSurrogates ns
      else .ofNat n :: joinSurrogates (m :: ns)

/-- The token of the inside of a text. -/
def textToken (body : List Char) : Token :=
  match codes? body with
  | some ns => .text ⟨joinSurrogates ns⟩
  | none => .bad

/-! ### Numerals -/

/-- The digits of a whole part, and the rest: a zero stands alone. -/
def cutWhole : List Char → List Char × List Char
  | '0' :: cs => (['0'], cs)
  | cs => (cs.takeWhile isAsciiDigit, cs.dropWhile isAsciiDigit)

/-- The digits behind a point, if there are any, and the rest. -/
def cutFraction : List Char → List Char × List Char
  | '.' :: c :: cs =>
      if isAsciiDigit c then
        (c :: cs.takeWhile isAsciiDigit, cs.dropWhile isAsciiDigit)
      else ([], '.' :: c :: cs)
  | cs => ([], cs)

/-- An exponent with its digits, if there is one, and the rest. -/
def cutExponent : List Char → Option Int × List Char
  | [] => (none, [])
  | c :: cs =>
      let (negative, ds) := Decimal.readSign cs
      let digits := ds.takeWhile isAsciiDigit
      if (c = 'e' ∨ c = 'E') ∧ digits ≠ [] then
        (some (if negative then -(ofDigits digits : Int) else ofDigits digits),
          ds.dropWhile isAsciiDigit)
      else (none, c :: cs)

/-- The token of the parts of a numeral. -/
def numeralToken (negative : Bool) (whole fraction : List Char) (exponent : Option Int) : Token :=
  if fraction.isEmpty && exponent.isNone then
    match Numeral.read whole with
    | .ok n => .scalar (.int (if negative then -(n : Int) else n))
    | .error _ => .bad
  else
    .scalar (.float (.ofDecimal negative
      ⟨ofDigits (whole ++ fraction), exponent.getD 0 - fraction.length⟩))

/-- The numeral that begins with a digit, behind a sign, and what follows it. -/
def cutNumeral (negative : Bool) (cs : List Char) : Token × List Char :=
  let (whole, rest) := cutWhole cs
  let (fraction, rest) := cutFraction rest
  let (exponent, rest) := cutExponent rest
  (numeralToken negative whole fraction exponent, rest)

theorem length_dropWhile_le {α : Type} (p : α → Bool) (as : List α) :
    (as.dropWhile p).length ≤ as.length :=
  (List.dropWhile_sublist p).length_le

theorem length_cutWhole_lt {c : Char} (hc : isAsciiDigit c = true) (cs : List Char) :
    (cutWhole (c :: cs)).2.length < (c :: cs).length := by
  unfold cutWhole
  split
  · next h => cases h; simp
  · have := length_dropWhile_le isAsciiDigit cs
    simp only [List.dropWhile_cons, hc, if_true, List.length_cons]
    omega

theorem length_cutFraction_le (cs : List Char) : (cutFraction cs).2.length ≤ cs.length := by
  unfold cutFraction
  split
  · next c cs =>
    have := length_dropWhile_le isAsciiDigit cs
    split <;> simp only [List.length_cons] <;> omega
  · exact Nat.le_refl _

theorem length_readSign_le (cs : List Char) : (Decimal.readSign cs).2.length ≤ cs.length := by
  unfold Decimal.readSign
  split <;> simp

theorem length_cutExponent_le (cs : List Char) : (cutExponent cs).2.length ≤ cs.length := by
  unfold cutExponent
  split
  · exact Nat.le_refl _
  · next c cs =>
    have h1 := length_readSign_le cs
    have h2 := length_dropWhile_le isAsciiDigit (Decimal.readSign cs).2
    simp only []
    split <;> simp only [List.length_cons] <;> omega

theorem length_cutNumeral_lt (negative : Bool) {c : Char} (hc : isAsciiDigit c = true)
    (cs : List Char) : (cutNumeral negative (c :: cs)).2.length < (c :: cs).length := by
  have h1 := length_cutWhole_lt hc cs
  have h2 := length_cutFraction_le (cutWhole (c :: cs)).2
  have h3 := length_cutExponent_le (cutFraction (cutWhole (c :: cs)).2).2
  simp only [cutNumeral]
  omega

/-! ### The tokens of a text -/

/-- White space between tokens. -/
def isSpace (c : Char) : Bool := c == ' ' || c == '\t' || c == '\n' || c == '\r'

/-- The bracket, comma or colon that a character is. -/
def punctuation? : Char → Option Token
  | '[' => some .openList
  | ']' => some .closeList
  | '\x7b' => some .openObject
  | '\x7d' => some .closeObject
  | ',' => some .comma
  | ':' => some .colon
  | _ => none

/-- The values that are words. -/
def words : List (List Char × Json) :=
  [("null".toList, .null), ("true".toList, .bool true), ("false".toList, .bool false),
    ("NaN".toList, .float .nan), ("Infinity".toList, .float (.infinite false)),
    ("-Infinity".toList, .float (.infinite true))]

/-- The tokens of a text. A character that begins no token ends the list. -/
def tokens (cs : List Char) : List Token :=
  match cs with
  | [] => []
  | c :: cs =>
      if isSpace c then tokens cs
      else match punctuation? c with
        | some t => t :: tokens cs
        | none =>
            if c = '"' then match _h : cutText? cs with
              | some (body, rest) => textToken body :: tokens rest
              | none => [.bad]
            else match words.find? fun w => w.1.isPrefixOf (c :: cs) with
              | some (w, v) => .scalar v :: tokens (cs.drop (w.length - 1))
              | none =>
                  if _hc : isAsciiDigit c = true then
                    (cutNumeral false (c :: cs)).1 :: tokens (cutNumeral false (c :: cs)).2
                  else match cs with
                    | [] => [.bad]
                    | d :: ds =>
                        if _hd : c = '-' ∧ isAsciiDigit d = true then
                          (cutNumeral true (d :: ds)).1 :: tokens (cutNumeral true (d :: ds)).2
                        else [.bad]
termination_by cs.length
decreasing_by
  · simp
  · simp
  · have := length_lt_of_cutText? _h; simp only [List.length_cons]; omega
  · simp only [List.length_drop, List.length_cons]; omega
  · exact length_cutNumeral_lt false _hc cs
  · have := length_cutNumeral_lt true _hd.2 ds
    simp only [List.length_cons] at this ⊢
    omega

end Json

end LineShell
