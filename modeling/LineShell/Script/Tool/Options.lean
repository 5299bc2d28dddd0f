import LineShell.Script.Quote

/-!
# Options

How options are told from operands. An option is a letter behind a minus sign or a name behind two;
it may need a value or be able to have one. A name may be cut short as long as only one option can be
meant.

Main statements: `readOptions_of_operands`, by which arguments that are no options are operands, and
`findName?_eq_ok`, by which a whole name is never taken for a short form of another one.
-/

namespace LineShell

namespace Script

namespace Tool

/-! ### Rules -/

/-- Whether an option has a value. -/
inductive OptionValue where
  /-- It has none. -/
  | never
  /-- It needs one. -/
  | always
  /-- It may have one, which then stands close behind it. -/
  | maybe
deriving DecidableEq, Repr

/-- The options of a tool. -/
structure OptionRules where
  /-- The letters: one with a colon behind it needs a value, one with two may have a value. An option
  that has only a name is listed by a letter that no octet is. -/
  letters : String
  /-- The names with the letters that they stand for. -/
  names : List (String × Char)
  /-- Whether options may stand behind operands. -/
  mixed : Bool
  /-- The exit code of a call that is not understood. -/
  failCode : Nat

/-- The letter of the option that asks for the manual. -/
def manualLetter : Char := 'ℎ'

/-- The letter of the option that asks for the version. -/
def versionLetter : Char := 'ℽ'

namespace OptionRules

/-- All names with their letters; every tool tells about itself. -/
def allNames (r : OptionRules) : List (String × Char) :=
  if r.names.any (·.1 = "help") then r.names
  else r.names ++ [("help", manualLetter), ("version", versionLetter)]

/-- How many colons stand behind a letter, if it is there. -/
def colonsBehind (c : Char) : List Char → Option Nat
  | [] => none
  | x :: rest => if x = c then some (rest.takeWhile (· == ':')).length else colonsBehind c rest

/-- Whether the option of a letter has a value, if there is one. -/
def valueOf? (r : OptionRules) (c : Char) : Option OptionValue :=
  if c = ':' then none
  else if c = manualLetter ∨ c = versionLetter then some .never
  else (colonsBehind c r.letters.toList).map fun
    | 0 => .never
    | 1 => .always
    | _ => .maybe

end OptionRules

/-- The options of a call and its operands. -/
structure Arguments where
  /-- The options in order, with their values. -/
  options : List (Char × Octets)
  /-- The operands. -/
  operands : List Octets
deriving DecidableEq, Repr

namespace Arguments

/-- Whether an option is given. -/
def has (a : Arguments) (c : Char) : Bool := a.options.any (·.1 == c)

/-- Whether one of some options is given. -/
def hasAny (a : Arguments) (cs : String) : Bool := a.options.any fun o => cs.toList.contains o.1

/-- The values of an option. -/
def values (a : Arguments) (c : Char) : List Octets := (a.options.filter (·.1 == c)).map Prod.snd

/-- The last value of an option. -/
def value? (a : Arguments) (c : Char) : Option Octets := (a.values c).getLast?

/-- The last of some options that is given. -/
def last? (a : Arguments) (cs : String) : Option (Char × Octets) :=
  a.options.reverse.find? fun o => cs.toList.contains o.1

/-- Arguments with options in front. -/
def withOptions (os : List (Char × Octets)) (a : Arguments) : Arguments :=
  { a with options := os ++ a.options }

/-- Arguments with an operand in front. -/
def withOperand (cs : Octets) (a : Arguments) : Arguments :=
  { a with operands := cs :: a.operands }

end Arguments

/-! ### Faults -/

/-- What is wrong with options. -/
inductive OptionFault where
  /-- There is no such letter. -/
  | unknown (c : Char)
  /-- A letter lacks its value. -/
  | valueMissing (c : Char)
  /-- There is no such name. -/
  | unknownName (cs : Octets)
  /-- A short form may stand for several names. -/
  | ambiguousName (cs : Octets) (names : List String)
  /-- A name has a value that it must not have. -/
  | valueRefused (name : String)
  /-- A name lacks its value. -/
  | nameValueMissing (name : String)
deriving DecidableEq, Repr

/-- The wording of a fault of options. -/
def OptionFault.message : OptionFault → Octets
  | unknown c => octetsOf "invalid option -- '" ++ [c, '\'']
  | valueMissing c => octetsOf "option requires an argument -- '" ++ [c, '\'']
  | unknownName cs => octetsOf "unrecognized option '--" ++ cs ++ ['\'']
  | ambiguousName cs names => octetsOf "option '--" ++ cs ++
      octetsOf "' is ambiguous; possibilities:" ++
      octetsOf (String.join (names.map fun n => " '--" ++ n ++ "'"))
  | valueRefused name => octetsOf ("option '--" ++ name ++ "' doesn't allow an argument")
  | nameValueMissing name => octetsOf ("option '--" ++ name ++ "' requires an argument")

/-! ### Reading -/

/-- What an argument gives: its options, and whether the argument behind it is the value of the
last. -/
abbrev OptionReading := Except OptionFault (List (Char × Octets) × Bool)

/-- The options of the letters of an argument, given the arguments behind it. -/
def readLetters (rules : OptionRules) (behind : List Octets) : Octets → OptionReading
  | [] => .ok ([], false)
  | c :: cs => match rules.valueOf? c, cs, behind with
    | none, _, _ => .error (.unknown c)
    | some .never, cs, _ => do
        let (os, took) ← readLetters rules behind cs
        return ((c, []) :: os, took)
    | some .always, [], [] => .error (.valueMissing c)
    | some .always, [], v :: _ => .ok ([(c, v)], true)
    | some _, cs, _ => .ok ([(c, cs)], false)

/-- What a name stands for, of which perhaps only the beginning is written. -/
def findName? (names : List (String × Char)) (name : Octets) :
    Except OptionFault (String × Char) :=
  match names.find? fun e => e.1.toList = name with
  | some e => .ok e
  | none => match names.filter fun e => name.isPrefixOf e.1.toList with
    | [] => .error (.unknownName name)
    | e :: others => match others.filter fun o => o.2 != e.2 with
      | [] => .ok e
      | rest => .error (.ambiguousName name (e.1 :: rest.map Prod.fst))

/-- A whole name is never taken for a short form of another one. -/
theorem findName?_eq_ok {names : List (String × Char)} {e : String × Char}
    (h : names.find? (fun o => decide (o.1.toList = e.1.toList)) = some e) :
    findName? names e.1.toList = .ok e := by
  simp [findName?, h]

/-- The option of a name with its value behind an equals sign or in the next argument. -/
def readName (rules : OptionRules) (behind : List Octets) (cs : Octets) : OptionReading :=
  let name := cs.takeWhile (· != '=')
  let value := (cs.drop name.length).drop 1
  let hasValue : Bool := name.length < cs.length
  match findName? rules.allNames name with
  | .error (.unknownName _) => .error (.unknownName cs)
  | .error (.ambiguousName _ names) => .error (.ambiguousName cs names)
  | .error f => .error f
  | .ok (whole, c) => match rules.valueOf? c, hasValue, behind with
    | some .always, false, [] => .error (.nameValueMissing whole)
    | some .always, false, v :: _ => .ok ([(c, v)], true)
    | some .never, true, _ => .error (.valueRefused whole)
    | _, _, _ => .ok ([(c, value)], false)

/-- What an argument is, given the arguments behind it. -/
inductive Argument where
  /-- Options; perhaps the argument behind it is a value. -/
  | options (r : OptionReading)
  /-- The mark behind which all are operands. -/
  | mark
  /-- An operand. -/
  | operand

/-- What an argument is. -/
def classify (rules : OptionRules) (behind : List Octets) : Octets → Argument
  | ['-', '-'] => .mark
  | '-' :: '-' :: name => .options (readName rules behind name)
  | '-' :: c :: cs => .options (readLetters rules behind (c :: cs))
  | _ => .operand

/-- An argument without a minus sign in front is an operand. -/
theorem classify_of_head?_ne {rules : OptionRules} {behind : List Octets} {a : Octets}
    (h : a.head? ≠ some '-') : classify rules behind a = .operand := by
  unfold classify
  split
  · simp at h
  · simp at h
  · simp at h
  · rfl

/-- The options and operands among arguments. -/
def readOptions (rules : OptionRules) : List Octets → Except OptionFault Arguments
  | [] => .ok ⟨[], []⟩
  | a :: rest => match classify rules rest a with
    | .mark => .ok ⟨[], rest⟩
    | .options r => do
        let (os, took) ← r
        return (← readOptions rules (rest.drop took.toNat)).withOptions os
    | .operand =>
        if rules.mixed then do return (← readOptions rules rest).withOperand a
        else .ok ⟨[], a :: rest⟩
termination_by l => l.length
decreasing_by
  · simp only [List.length_drop, List.length_cons]
    omega
  · simp

/-- Arguments that are no options are operands. -/
theorem readOptions_of_operands {rules : OptionRules} {args : List Octets}
    (h : ∀ a ∈ args, a.head? ≠ some '-') : readOptions rules args = .ok ⟨[], args⟩ := by
  induction args with
  | nil => simp [readOptions]
  | cons a rest ih =>
    have ha := h a (by simp)
    have hr := ih fun b hb => h b (by simp [hb])
    unfold readOptions
    rw [classify_of_head?_ne ha]
    by_cases hm : rules.mixed = true
    · simp [hm, hr, Arguments.withOperand, bind, Except.bind, pure, Except.pure]
    · simp [hm]

end Tool

end Script

end LineShell
