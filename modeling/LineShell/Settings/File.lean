import LineShell.Disk.Basic
import LineShell.Json.Reader
import LineShell.Settings.Basic
import LineShell.Text.Utf8

/-!
# The settings file

Settings are kept in a JSON file. A file that is missing sets nothing; one that is not JSON in
UTF-8, or holds no object, is ignored with a warning, and so are members whose names do not count.
How deeply containers may nest in it depends on the machine and is given with the disk.

Main statements: `membersOfJson_of_not_obj` (only an object sets anything) and
`one_le_maxPasses_of_load` (at least one pass is made, whatever the file says).
-/

namespace LineShell

namespace Settings

/-- Where the settings are kept unless another place is named. -/
def defaultPath : String := "config/core.json"

/-- Why settings cannot be had. -/
inductive Error where
  /-- The path cannot be followed. -/
  | path (p : Path) (f : Disk.Fault)
  /-- The file is nested too deeply. -/
  | nesting (e : Json.ReadError)
  /-- The number of passes cannot be had. -/
  | passes (e : PassesError)
deriving DecidableEq, Repr

/-- The wording of an error. -/
def Error.message : Error → String
  | path p f => f.message p
  | nesting e => e.message
  | passes e => e.message

/-- Names in the order of their code points. -/
def sortNames (names : List WideText) : List WideText := names.mergeSort WideText.le

/-- The warnings about the names of members. -/
def keyWarnings (path : String) (ms : List (WideText × Json)) : List Warning :=
  match (ms.map Prod.fst).filter fun n => !(keys.map WideText.ofString).contains n with
  | [] => []
  | unknown => [.unknownKeys path (sortNames unknown)]

/-- The members that count, in the order of `keys`. -/
def knownMembers (ms : List (WideText × Json)) : List (WideText × Json) :=
  keys.filterMap fun k => (member? k ms).map (.ofString k, ·)

/-- The members that count in a value, with the warnings about it. -/
def membersOfJson (path : String) : Json → List (WideText × Json) × List Warning
  | .obj ms => (knownMembers ms, keyWarnings path ms)
  | _ => ([], [.notAnObject path])

/-- Only an object sets anything. -/
theorem membersOfJson_of_not_obj {path : String} {v : Json} (h : ∀ ms, v ≠ .obj ms) :
    membersOfJson path v = ([], [.notAnObject path]) := by
  cases v with
  | obj ms => exact absurd rfl (h ms)
  | _ => rfl

/-- The members that count in a file with these bytes, with the warnings about it. -/
def membersOfBytes (nesting : Nat) (path : String) (bytes : List UInt8) :
    Except Error (List (WideText × Json) × List Warning) :=
  match Utf8.decode? bytes with
  | none => .ok ([], [.invalid path])
  | some cs => match Json.read nesting cs with
    | .ok v => .ok (membersOfJson path v)
    | .error .invalid => .ok ([], [.invalid path])
    | .error e => .error (.nesting e)

/-- The members that count in the file at a path, with the warnings about it. -/
def members (nesting : Nat) (d : Disk) (path : String) : Except Error (List (WideText × Json) × List Warning) := do
  let p := Path.ofString path
  if ← (d.hasNode p).mapError (Error.path p) then
    match d.read p with
    | some bytes => membersOfBytes nesting p.text bytes
    | none => return ([], [.invalid p.text])
  else return ([], [])

/-- The members that count where a settings file is named, or not. -/
def membersAt (nesting : Nat) (d : Disk) :
    Option String → Except Error (List (WideText × Json) × List Warning)
  | some path => if path.isEmpty then .ok ([], []) else members nesting d path
  | none => .ok ([], [])

/-- The settings that were found, or why there are none, and what was odd about the file. -/
structure Loaded where
  /-- The warnings, in the order in which they arose. -/
  warnings : List Warning
  /-- The settings, or why there are none. -/
  result : Except Error Settings

/-- The settings that members make; the warnings about the file come before those about them. -/
def finish (ms : List (WideText × Json)) (warnings : List Warning) : Loaded :=
  match ofMembers ms with
  | .ok (s, more) => ⟨warnings ++ more, .ok s⟩
  | .error e => ⟨warnings, .error (.passes e)⟩

/-- The settings of a session whose settings file is named, or not. -/
def load (nesting : Nat) (d : Disk) (path : Option String) : Loaded :=
  match membersAt nesting d path with
  | .ok (ms, warnings) => finish ms warnings
  | .error e => ⟨[], .error e⟩

/-- Whatever a file says, at least one pass is made. -/
theorem one_le_maxPasses_of_load {nesting : Nat} {d : Disk} {path : Option String} {s : Settings}
    (h : (load nesting d path).result = .ok s) : 1 ≤ s.maxPasses := by
  unfold load at h
  split at h
  · unfold finish at h
    split at h
    · next hm => cases h; exact one_le_maxPasses hm
    · cases h
  · cases h

end Settings

end LineShell
