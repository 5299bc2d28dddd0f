import LineShell.Json.Basic
import LineShell.Numeral.Signed
import LineShell.Text.Wide

/-!
# Settings

What a settings file can set: how many passes the expansion of an alias makes, the prompt, the
level of the log, and the shell that runs external commands. `Settings.ofMembers` makes settings
from the members of a file: each setting is taken from the member of its name when that has a
usable value, and has its default otherwise.

Main statements: `one_le_maxPasses` (at least one pass is made, whatever a file says) and
`ofMembers_nil` (without members all is default).
-/

namespace LineShell

/-- What a settings file can set. -/
structure Settings where
  /-- The passes that the expansion of an alias makes. -/
  maxPasses : Int
  /-- The prompt. -/
  prompt : WideText
  /-- The level of the log, if one is asked for. -/
  logLevel : Option WideText
  /-- The shell for external commands, if it is not the common one. -/
  shell : Option WideText
deriving DecidableEq, Repr

namespace Settings

/-- The passes that are made unless a file says otherwise. -/
def defaultMaxPasses : Int := 10

/-- The settings without a file. -/
def default : Settings := ⟨defaultMaxPasses, "fakeshell> ", none, none⟩

/-- The names of the members that count, in their order. -/
def keys : List String := ["expand_max_passes", "prompt", "log_level", "shell"]

/-! ### Whole numbers from values -/

/-- What a value gives where a whole number is due. -/
inductive Whole where
  /-- A number. -/
  | number (n : Int)
  /-- Nothing that is a whole number. -/
  | unusable
  /-- An infinity. -/
  | infinite
deriving DecidableEq, Repr

/-- The whole number that a value gives: a fraction is cut off, truth values count as one and
zero, and a text is read. -/
def Whole.ofJson : Json → Whole
  | .int n => number n
  | .bool b => number (if b then 1 else 0)
  | .float .nan => unusable
  | .float x => match x.toDecimal? with
    | some d => number d.truncate
    | none => infinite
  | .str s => match s.toString?.bind Numeral.readSigned? with
    | some n => number n
    | none => unusable
  | _ => unusable

/-! ### Settings from members -/

/-- An infinity was given where a whole number is due. -/
inductive PassesError where
  /-- The number of passes is infinite. -/
  | infinite
deriving DecidableEq, Repr

/-- The wording of an error. -/
def PassesError.message : PassesError → String
  | infinite => "cannot convert float infinity to integer"

/-- What was odd about a settings file. -/
inductive Warning where
  /-- The file is not JSON, or cannot be read. -/
  | invalid (path : String)
  /-- The file does not hold an object. -/
  | notAnObject (path : String)
  /-- Some members have names that do not count. -/
  | unknownKeys (path : String) (names : List WideText)
  /-- The number of passes is of no use; the one in force is kept. -/
  | passesKept (n : Int)
deriving DecidableEq, Repr

/-- The wording of a warning. -/
def Warning.message : Warning → WideText
  | invalid path => s!"ignoring {path}: invalid"
  | notAnObject path => s!"ignoring {path}: expected a JSON object"
  | unknownKeys path names =>
      .append s!"{path}: unknown keys " (.intercalate ", " names)
  | passesKept n => s!"expand_max_passes must be an integer, keeping {n}"

/-- The number of passes that a member sets, at least one, with the warnings about it. -/
def passesOf : Option Json → Except PassesError (Int × List Warning)
  | none => .ok (defaultMaxPasses, [])
  | some v => match Whole.ofJson v with
    | .number n => .ok (max 1 n, [])
    | .unusable => .ok (defaultMaxPasses, [.passesKept defaultMaxPasses])
    | .infinite => .error .infinite

/-- The text that a member holds. -/
def textOf? : Json → Option WideText
  | .str s => some s
  | _ => none

/-- The shell that a member names. -/
def shellOf? (v : Json) : Option WideText := if v.isTruthy then some v.display else none

/-- The value of the member of a name. -/
def member? (name : String) (ms : List (WideText × Json)) : Option Json := ms.lookup (.ofString name)

@[simp] theorem member?_nil (name : String) : member? name [] = none := rfl

/-- A name without surrogates is found where it stands. -/
@[simp] theorem member?_cons_ofString (name k : String) (v : Json) (ms : List (WideText × Json)) :
    member? name ((.ofString k, v) :: ms) = if name = k then some v else member? name ms := by
  rw [member?, List.lookup_cons, member?]
  by_cases h : name = k
  · rw [if_pos h, h, BEq.rfl]
  · rw [if_neg h, beq_eq_false_iff_ne.mpr (mt WideText.ofString_inj.mp h)]

/-- The settings that members make, with the warnings about them. -/
def ofMembers (ms : List (WideText × Json)) : Except PassesError (Settings × List Warning) :=
  (passesOf (member? "expand_max_passes" ms)).map fun (passes, warnings) =>
    ({ maxPasses := passes
       prompt := ((member? "prompt" ms).bind textOf?).getD default.prompt
       logLevel := ((member? "log_level" ms).bind textOf?).map WideText.upper
       shell := (member? "shell" ms).bind shellOf? }, warnings)

/-- Without members all is default. -/
theorem ofMembers_nil : ofMembers [] = .ok (default, []) := rfl

theorem one_le_of_passesOf {v : Option Json} {n : Int} {ws : List Warning}
    (h : passesOf v = .ok (n, ws)) : 1 ≤ n := by
  unfold passesOf at h
  split at h
  · cases h; decide
  · split at h <;> cases h
    · exact Int.le_max_left 1 _
    · decide

/-- At least one pass is made, whatever the members are. -/
theorem one_le_maxPasses {ms : List (WideText × Json)} {s : Settings} {ws : List Warning}
    (h : ofMembers ms = .ok (s, ws)) : 1 ≤ s.maxPasses := by
  unfold ofMembers at h
  cases hp : passesOf (member? "expand_max_passes" ms) with
  | error e => rw [hp] at h; cases h
  | ok p =>
      rw [hp] at h
      cases h
      exact one_le_of_passesOf hp

end Settings

end LineShell
