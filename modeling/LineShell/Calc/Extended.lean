import LineShell.Calc.Arithmetic
import LineShell.Decimal.Plain
import LineShell.Decimal.Reader

/-!
# Arithmetic beyond numbers

The operators on all that a numeral can write: decimals, the two infinities, and values that are no
number, which may carry digits. A value that is no number can be a signaling one, with which hardly
anything can be done.

An expression of the calculator has no other operands than decimals, and of two decimals `applyExtended`
makes what `Operator.apply` makes of them (`applyExtended_finite`).

Main statement: `applyExtended_of_isMarked`, by which sums, differences, quotients and remainders have
no result unless both operands are decimals.
-/

namespace LineShell

namespace Calc

/-- A decimal, or what stands in the place of one. -/
inductive Extended where
  /-- A decimal. -/
  | finite (d : Decimal)
  /-- An infinity. -/
  | infinite (negative : Bool)
  /-- No number, with the digits that it carries. -/
  | notNumber (negative signaling : Bool) (payload : List Char)
deriving DecidableEq, Repr

/-- What an exponent is: a number, or the mark of a value that is not finite. -/
inductive ExponentKind where
  /-- The exponent of a decimal. -/
  | number
  /-- The mark of an infinity or of what is no number. -/
  | mark
deriving DecidableEq, Repr

/-- The name of a kind of exponent. -/
def ExponentKind.name : ExponentKind → String
  | number => "int"
  | mark => "str"

/-- Why an operator has no result. -/
inductive ExtendedFailure where
  /-- The reason is one that expressions know as well. -/
  | ordinary (f : Failure)
  /-- The smaller of two exponents is asked for that cannot be compared. -/
  | incomparable (left right : ExponentKind)
  /-- The difference of two exponents is asked for that are not both numbers. -/
  | noDifference (left right : ExponentKind)
  /-- The operation has no meaning for the operands. -/
  | invalid
  /-- The digits of an operand are asked for, and it has none. -/
  | noDigits
deriving DecidableEq, Repr

/-- The wording of a failure. -/
def ExtendedFailure.message : ExtendedFailure → String
  | ordinary f => f.message
  | incomparable l r => s!"'<' not supported between instances of '{l.name}' and '{r.name}'"
  | noDifference l r => s!"unsupported operand type(s) for -: '{l.name}' and '{r.name}'"
  | invalid => "[<class 'decimal.InvalidOperation'>]"
  | noDigits => "invalid literal for int() with base 10: ''"

namespace Extended

/-! ### Reading and writing -/

/-- A letter of ASCII in lower case. -/
def lowerChars (cs : List Char) : List Char := cs.map Char.toLower

/-- The digits that a value which is no number carries: without zeros in front, in ASCII. -/
def readPayload? (cs : List Char) : Option (List Char) :=
  if cs.all isDecimalDigit then
    let ds := cs.map fun c => Nat.digitChar ((digitValue? c).getD 0)
    some (ds.dropWhile (· == '0'))
  else none

/-- What a text writes that writes no decimal, without regard to blanks and underscores. -/
def readSpecial? (cs : List Char) : Option Extended :=
  let (negative, body) := Decimal.readSign cs
  match lowerChars body with
  | 'i' :: 'n' :: 'f' :: rest =>
      if rest.isEmpty || rest == "inity".toList then some (.infinite negative) else none
  | 'n' :: 'a' :: 'n' :: rest => (readPayload? rest).map (.notNumber negative false)
  | 's' :: 'n' :: 'a' :: 'n' :: rest => (readPayload? rest).map (.notNumber negative true)
  | _ => none

/-- What a text writes. -/
def read (s : String) : Except Decimal.ReadError Extended :=
  let cs := Decimal.numeralChars s
  match readSpecial? cs with
  | some x => .ok x
  | none => (Decimal.readNumeral cs).map .finite

/-- The sign of a value in writing. -/
def signText (negative : Bool) : String := if negative then "-" else ""

/-- A value in plain notation, if there is room for it. -/
def plain? (room : Nat) : Extended → Option String
  | finite d => d.plain? room
  | infinite negative => some (signText negative ++ "Infinity")
  | notNumber negative signaling payload =>
      some (signText negative ++ (if signaling then "sNaN" else "NaN") ++ String.ofList payload)

/-! ### Parts of a value -/

/-- Whether a value is zero. -/
def isZero : Extended → Bool
  | finite d => d.isZero
  | _ => false

/-- Whether a value is below zero. -/
def isNegative : Extended → Bool
  | finite d => d.coefficient < 0
  | infinite negative => negative
  | notNumber negative _ _ => negative

/-- What the exponent of a value is. -/
def exponentKind : Extended → ExponentKind
  | finite _ => .number
  | _ => .mark

/-- How many digits a value has; an infinity has a zero for one. -/
def digitCount : Extended → Nat
  | finite d => d.digitCount
  | infinite _ => 1
  | notNumber _ _ payload => payload.length

end Extended

/-- What comes of an operator. -/
abbrev ExtendedResult := Except ExtendedFailure Extended

/-- A reason that expressions know as well. -/
def ExtendedFailure.ofError (e : Error) : ExtendedFailure := .ordinary (.rejected e)

/-! ### Operators -/

/-- What two decimals come to. -/
def ofDecimals (o : Operator) (a b : Decimal) : ExtendedResult :=
  ((o.apply a b).map .finite).mapError .ordinary

/-- Why the digits from the highest to the lowest cannot be told of two values that are not both
decimals. -/
def noSpan : Extended → Extended → ExtendedFailure
  | .finite _, _ => .incomparable .mark .number
  | _, .finite _ => .incomparable .number .mark
  | _, _ => .noDifference .number .mark

/-- What the digits of a value that is no number, or of two such values, make of a result: a
signaling one is refused, and of others the first is handed on. -/
def firstNotNumber? : Extended → Extended → Option ExtendedResult
  | .notNumber _ true _, _ => some (.error .invalid)
  | _, .notNumber _ true _ => some (.error .invalid)
  | .notNumber n false p, _ => some (.ok (.notNumber n false p))
  | _, .notNumber n false p => some (.ok (.notNumber n false p))
  | _, _ => none

/-- The product of two values that are not both decimals. -/
def extendedProduct (x y : Extended) : ExtendedResult :=
  match firstNotNumber? x y with
  | some r => r
  | none =>
      if x.isZero || y.isZero then .error .invalid
      else .ok (.infinite (x.isNegative != y.isNegative))

/-- The digits of a value can be read as a number. -/
def checkDigits : Extended → Except ExtendedFailure Unit
  | .finite d =>
      (Numeral.checkReadable d.coefficient.natAbs).mapError fun e => .ordinary (.conversion e)
  | .infinite _ => .ok ()
  | .notNumber _ _ [] => .error .noDigits
  | .notNumber _ _ ds => do
      let _ ← (Numeral.read ds).mapError fun e => ExtendedFailure.ordinary (.conversion e)

/-- The quotient by what is not zero, of two values that are not both decimals. -/
def extendedQuotient (x y : Extended) : ExtendedResult := do
  checkDigits x
  checkDigits y
  throw (.noDifference x.exponentKind y.exponentKind)

/-- The power of what is no decimal, with a natural exponent above zero. -/
def extendedNaturalPower (x : Extended) (n : Nat) : ExtendedResult :=
  if maxPowerDigits < x.digitCount * n + 1 then .error (.ofError .powerTooLong)
  else match x with
    | .notNumber _ true _ => .error .invalid
    | .infinite negative => .ok (.infinite (negative && n % 2 == 1))
    | x => .ok x

/-- The whole number that an exponent is cut to. -/
def extendedExponent : Extended → Except ExtendedFailure Int
  | .finite b => (wholeExponent b).mapError .ordinary
  | .infinite _ => .error (.ofError .exponentTooLarge)
  | .notNumber _ _ _ => .error .invalid

/-- The power of two values that are not both decimals. -/
def extendedPower (x y : Extended) : ExtendedResult := do
  match ← extendedExponent y with
  | 0 => return .finite (.ofInt 1)
  | .ofNat n => extendedNaturalPower x n
  | .negSucc m => extendedQuotient (.finite (.ofInt 1)) (← extendedNaturalPower x (m + 1))

/-- What an operator makes of two values. -/
def Operator.applyExtended : Operator → Extended → Extended → ExtendedResult
  | o, .finite a, .finite b => ofDecimals o a b
  | add, x, y => .error (noSpan x y)
  | sub, x, y => .error (noSpan x y)
  | mul, x, y => extendedProduct x y
  | div, x, y => if y.isZero then .error (.ofError .divisionByZero) else extendedQuotient x y
  | mod, x, y => if y.isZero then .error (.ofError .moduloByZero) else .error (noSpan x y)
  | pow, x, y => extendedPower x y

/-- Of two decimals an operator makes what it makes of them in expressions. -/
theorem applyExtended_finite (o : Operator) (a b : Decimal) :
    o.applyExtended (.finite a) (.finite b) =
      ((o.apply a b).map Extended.finite).mapError .ordinary := by
  cases o <;> rfl

/-- A quotient of what is not two decimals has no result. -/
theorem extendedQuotient_isError (x y : Extended) : ∃ f, extendedQuotient x y = .error f := by
  unfold extendedQuotient
  cases checkDigits x with
  | error f => exact ⟨f, rfl⟩
  | ok _ => cases checkDigits y with
    | error f => exact ⟨f, rfl⟩
    | ok _ => exact ⟨_, rfl⟩

/-- Only of products and powers something comes if an operand is no decimal. -/
theorem applyExtended_of_isMarked {o : Operator} {x y : Extended}
    (h : x.exponentKind = .mark ∨ y.exponentKind = .mark) (ho : o ≠ .mul ∧ o ≠ .pow) :
    ∃ f, o.applyExtended x y = .error f := by
  have hspan : ∃ f, (.error (noSpan x y) : ExtendedResult) = .error f := ⟨_, rfl⟩
  have hzero : ∀ e : Error, ∃ f, (.error (.ofError e) : ExtendedResult) = .error f :=
    fun e => ⟨_, rfl⟩
  unfold Operator.applyExtended
  split
  · rcases h with h | h <;> cases h
  · exact hspan
  · exact hspan
  · exact absurd rfl ho.1
  · split
    · exact hzero _
    · exact extendedQuotient_isError x y
  · split
    · exact hzero _
    · exact hspan
  · exact absurd rfl ho.2

end Calc

end LineShell
