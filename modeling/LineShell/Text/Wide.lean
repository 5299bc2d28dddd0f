import LineShell.Text.Quoted
import LineShell.Text.Upper

/-!
# Wide texts

A text with code points in it that are no characters: surrogates that stand alone. JSON can write
them, each by its number, and they are kept wherever a text is only passed on, compared or put into
capitals. They have no encoding, so a text that holds one cannot be written, nor handed to the system
as a name.

Every text is a wide text, and is found again in it.

Main statements: `toString?_ofString` and `ofString_of_toString?`, by which the wide texts without
surrogates are the texts.
-/

namespace LineShell

/-- A character, or a surrogate that stands alone. -/
inductive CodePoint where
  /-- A character. -/
  | char (c : Char)
  /-- A surrogate, by its distance from the first one. -/
  | surrogate (offset : Fin 0x800)
deriving DecidableEq, Repr

namespace CodePoint

/-- The number of the first surrogate. -/
def firstSurrogate : Nat := 0xD800

/-- The number of a code point. -/
def toNat : CodePoint → Nat
  | char c => c.toNat
  | surrogate offset => firstSurrogate + offset

/-- The code point of a number. -/
def ofNat (n : Nat) : CodePoint :=
  if n < firstSurrogate then char (Char.ofNat n)
  else if h : n - firstSurrogate < 0x800 then surrogate ⟨n - firstSurrogate, h⟩
  else char (Char.ofNat n)

/-- The character that a code point is. -/
def char? : CodePoint → Option Char
  | char c => some c
  | surrogate _ => none

/-- The capital form of a code point; a surrogate has no case. -/
def upper : CodePoint → List CodePoint
  | char c => (upperChar c).map char
  | surrogate offset => [surrogate offset]

/-- The number of a surrogate behind a backslash. -/
def escapedSurrogate (offset : Fin 0x800) : List Char :=
  '\\' :: 'u' :: Chars.hexDigits 4 (firstSurrogate + offset)

/-- A code point as it stands between marks. -/
def quoted (mark : Char) : CodePoint → List Char
  | char c => Chars.escape mark c
  | surrogate offset => escapedSurrogate offset

/-- A code point as it is shown where no encoding is asked for. -/
def escaped : CodePoint → List Char
  | char c => [c]
  | surrogate offset => escapedSurrogate offset

end CodePoint

/-- A text that may hold surrogates that stand alone. -/
structure WideText where
  /-- Its code points. -/
  codePoints : List CodePoint
deriving DecidableEq, Repr

namespace WideText

/-- A text without surrogates. -/
def ofString (s : String) : WideText := ⟨s.toList.map .char⟩

instance : Coe String WideText := ⟨ofString⟩

/-- The text that a wide text is, if it holds no surrogate. -/
def toString? (t : WideText) : Option String := (t.codePoints.mapM CodePoint.char?).map String.ofList

/-- Whether there is nothing in the text. -/
def isEmpty (t : WideText) : Bool := t.codePoints.isEmpty

/-- The text in capitals. -/
def upper (t : WideText) : WideText := ⟨t.codePoints.flatMap CodePoint.upper⟩

/-- Two texts behind each other. -/
def append (t u : WideText) : WideText := ⟨t.codePoints ++ u.codePoints⟩

/-- Texts with another one between them. -/
def intercalate (between : WideText) (ts : List WideText) : WideText :=
  ⟨between.codePoints.intercalate (ts.map codePoints)⟩

/-- Whether a text does not stand behind another one in the order of the numbers of code points. -/
def le (t u : WideText) : Bool :=
  !List.lex (u.codePoints.map CodePoint.toNat) (t.codePoints.map CodePoint.toNat) Nat.blt

/-- The text between marks. -/
def quotedChars (t : WideText) : List Char :=
  let mark := Chars.quoteMark (t.codePoints.filterMap CodePoint.char?)
  mark :: t.codePoints.flatMap (CodePoint.quoted mark) ++ [mark]

/-- The text as it is shown where no encoding is asked for: surrogates by their numbers. -/
def escaped (t : WideText) : String := String.ofList (t.codePoints.flatMap CodePoint.escaped)

/-- What is said about a text that has no encoding: where its first surrogates stand. -/
def encodingMessage (t : WideText) : String :=
  let behind := t.codePoints.dropWhile fun c => c.char?.isSome
  let first := t.codePoints.length - behind.length
  match behind.takeWhile fun c => c.char?.isNone with
  | [c] =>
      s!"'utf-8' codec can't encode character '{String.ofList c.escaped}' in position {first}: " ++
        "surrogates not allowed"
  | cs =>
      s!"'utf-8' codec can't encode characters in position {first}-{first + cs.length - 1}: " ++
        "surrogates not allowed"

/-! ### Texts and wide texts -/

/-- A text is found again. -/
@[simp] theorem toString?_ofString (s : String) : (ofString s).toString? = some s := by
  have hchars : ∀ cs : List Char, (cs.map CodePoint.char).mapM CodePoint.char? = some cs := by
    intro cs
    induction cs with
    | nil => rfl
    | cons c cs ih => rw [List.map_cons, List.mapM_cons, ih]; rfl
  rw [toString?, ofString, hchars, Option.map_some, String.ofList_toList]

/-- What is found in a wide text is that text. -/
theorem ofString_of_toString? {t : WideText} {s : String} (h : t.toString? = some s) :
    ofString s = t := by
  obtain ⟨ps⟩ := t
  obtain ⟨cs, hcs, rfl⟩ := Option.map_eq_some_iff.mp h
  have hpoints : cs.map CodePoint.char = ps := by
    simp only [] at hcs
    clear h
    induction ps generalizing cs with
    | nil => cases hcs; rfl
    | cons p ps ih =>
        cases p with
        | surrogate offset => cases hcs
        | char c =>
            rw [List.mapM_cons] at hcs
            cases hps : ps.mapM CodePoint.char? with
            | none => rw [hps] at hcs; cases hcs
            | some ds =>
                rw [hps] at hcs
                cases hcs
                rw [List.map_cons, ih ds hps]
  rw [ofString, String.toList_ofList, hpoints]

/-- A wide text that is no text holds a surrogate. -/
theorem toString?_eq_none_iff {t : WideText} :
    t.toString? = none ↔ ∃ offset, CodePoint.surrogate offset ∈ t.codePoints := by
  obtain ⟨ps⟩ := t
  rw [toString?, Option.map_eq_none_iff]
  induction ps with
  | nil => exact iff_of_false nofun (by simp)
  | cons p ps ih =>
      cases p with
      | surrogate offset => exact iff_of_true rfl ⟨offset, List.mem_cons_self⟩
      | char c =>
          have hcons : (CodePoint.char c :: ps).mapM CodePoint.char? =
              (ps.mapM CodePoint.char?).map (c :: ·) := by
            rw [List.mapM_cons]
            cases ps.mapM CodePoint.char? <;> rfl
          simp only [hcons, Option.map_eq_none_iff, List.mem_cons, reduceCtorEq, false_or]
          exact ih

/-- A surrogate is found again in capitals. -/
theorem toString?_upper_eq_none {t : WideText} (h : t.toString? = none) : t.upper.toString? = none := by
  obtain ⟨offset, hmem⟩ := toString?_eq_none_iff.mp h
  exact toString?_eq_none_iff.mpr ⟨offset, List.mem_flatMap.mpr ⟨_, hmem, List.mem_cons_self⟩⟩

/-- Different texts are different wide texts. -/
theorem ofString_inj {s t : String} : ofString s = ofString t ↔ s = t := by
  constructor
  · intro h
    have hfound := congrArg toString? h
    rwa [toString?_ofString, toString?_ofString, Option.some.injEq] at hfound
  · exact congrArg ofString

/-- Only the empty text has nothing in it. -/
theorem isEmpty_iff {t : WideText} : t.isEmpty = true ↔ t = ofString "" := by
  obtain ⟨ps⟩ := t
  cases ps with
  | nil => exact iff_of_true rfl rfl
  | cons p ps => exact iff_of_false nofun nofun

/-- Capitals are those of the text. -/
theorem upper_ofString (s : String) : (ofString s).upper = ofString (Text.upper s) := by
  rw [upper, ofString, ofString, Text.upper, String.toList_ofList, List.map_flatMap, List.flatMap_map]
  rfl

/-- A text without surrogates stands between marks as any text does. -/
theorem quotedChars_ofString (s : String) : (ofString s).quotedChars = Chars.quote s.toList := by
  have hchars : (s.toList.map CodePoint.char).filterMap CodePoint.char? = s.toList := by
    rw [List.filterMap_map]
    exact List.filterMap_some
  rw [quotedChars, ofString, hchars, Chars.quote, List.flatMap_map]
  rfl

/-- A text without surrogates is shown as it is. -/
@[simp] theorem escaped_ofString (s : String) : (ofString s).escaped = s := by
  have hchars : s.toList.flatMap (fun c => [c]) = s.toList := List.flatMap_singleton' _
  rw [escaped, ofString, List.flatMap_map]
  simp only [CodePoint.escaped, hchars, String.ofList_toList]

end WideText

end LineShell
