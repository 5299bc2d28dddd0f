import LineShell.Alias.Define
import LineShell.Session.Command

/-!
# The command `alias`

Without arguments the aliases are listed, and with a name alone that alias is shown. With a text
the alias is defined; the text may follow the name as further words, or an equals sign in the first
word. A definition that is turned down is reported, and the command has then run all the same.

Main statements: `splitAtEquals_eq_none_iff` and `splitAtEquals_eq_some_iff`, by which only a word with
an equals sign is cut, and the first one is where.
-/

namespace LineShell

namespace Command

/-- An alias as it is shown. -/
def showAlias (e : String × String) : String := s!"{e.1}='{e.2}'"

/-- A text cut at its first equals sign. -/
def cutAtEquals : List Char → Option (List Char × List Char)
  | [] => none
  | c :: cs => if c = '=' then some ([], cs) else (cutAtEquals cs).map fun p => (c :: p.1, p.2)

theorem cutAtEquals_eq_none_iff {cs : List Char} : cutAtEquals cs = none ↔ '=' ∉ cs := by
  induction cs with
  | nil => simp [cutAtEquals]
  | cons c cs ih =>
      by_cases h : c = '='
      · simp [cutAtEquals, h]
      · simp [cutAtEquals, h, ih, Ne.symm h]

/-- A text is cut at its first equals sign. -/
theorem cutAtEquals_append {as : List Char} (h : '=' ∉ as) (bs : List Char) :
    cutAtEquals (as ++ '=' :: bs) = some (as, bs) := by
  induction as with
  | nil => simp [cutAtEquals]
  | cons a as ih =>
      obtain ⟨hne, hnot⟩ := List.ne_and_not_mem_of_not_mem_cons h
      simp [cutAtEquals, Ne.symm hne, ih hnot]

/-- What stands before the cut has no equals sign, and what stands behind it may have any. -/
theorem cutAtEquals_eq_some_iff {cs as bs : List Char} :
    cutAtEquals cs = some (as, bs) ↔ cs = as ++ '=' :: bs ∧ '=' ∉ as := by
  constructor
  · intro h
    induction cs generalizing as with
    | nil => simp [cutAtEquals] at h
    | cons c cs ih =>
        rw [cutAtEquals] at h
        split at h
        · next hc =>
          cases h
          simp [hc]
        · next hc =>
          obtain ⟨⟨as', bs'⟩, hcut, heq⟩ := Option.map_eq_some_iff.mp h
          cases heq
          obtain ⟨rfl, hnot⟩ := ih hcut
          exact ⟨rfl, List.not_mem_cons_of_ne_of_not_mem (Ne.symm hc) hnot⟩
  · rintro ⟨rfl, hnot⟩
    exact cutAtEquals_append hnot bs

/-- A word cut at its first equals sign. -/
def splitAtEquals (w : String) : Option (String × String) :=
  (cutAtEquals w.toList).map fun p => (String.ofList p.1, String.ofList p.2)

/-- Only a word with an equals sign is cut. -/
theorem splitAtEquals_eq_none_iff {w : String} : splitAtEquals w = none ↔ '=' ∉ w.toList := by
  simp [splitAtEquals, cutAtEquals_eq_none_iff]

/-- The parts of a word that is cut. -/
theorem splitAtEquals_eq_some_iff {w name head : String} :
    splitAtEquals w = some (name, head) ↔ w = name ++ "=" ++ head ∧ '=' ∉ name.toList := by
  rw [splitAtEquals, Option.map_eq_some_iff, Prod.exists]
  constructor
  · rintro ⟨as, bs, hcut, heq⟩
    cases heq
    obtain ⟨hw, hnot⟩ := cutAtEquals_eq_some_iff.mp hcut
    refine ⟨String.toList_inj.mp ?_, by simpa using hnot⟩
    simpa using hw
  · rintro ⟨rfl, hnot⟩
    exact ⟨name.toList, head.toList, cutAtEquals_eq_some_iff.mpr ⟨by simp, hnot⟩, by simp⟩

/-- What is asked of the command. -/
inductive AliasRequest where
  /-- The list of all aliases. -/
  | all
  /-- One alias. -/
  | one (name : String)
  /-- The definition of an alias. -/
  | define (name text : String)
deriving DecidableEq, Repr

/-- What the arguments ask for. -/
def AliasRequest.ofArgs : List String → AliasRequest
  | [] => .all
  | w :: ws => match splitAtEquals w with
    | some (name, head) => .define name (Text.unwords (head :: ws))
    | none => if ws.isEmpty then .one w else .define w (Text.unwords ws)

/-- The list of aliases. -/
def listReply (t : Alias.Table) : Reply :=
  if t.entries.isEmpty then .text "No aliases defined" else .lines (t.entries.map showAlias)

/-- One alias, or that there is none. -/
def showReply (t : Alias.Table) (name : String) : Reply :=
  match t.lookup name with
  | some text => .text (showAlias (name, text))
  | none => .text s!"Alias '{name}' not found"

/-- The notes about a definition. -/
def defineNotes (name text : String) : Except Alias.Error Alias.Table → List Note
  | .ok _ => [.aliasDefined name (Alias.clean text)]
  | .error (.circular _) => [.aliasRejected name (Alias.clean text)]
  | .error _ => []

/-- Notes made one after another. -/
def noteAll : List Note → Act Unit
  | [] => pure ()
  | n :: ns => do Act.note n; noteAll ns

/-- Defining an alias. -/
def defineAlias (name text : String) : Act Reply := do
  if name.isEmpty then
    Act.writeErr "Error: Missing alias name"
    return .nothing
  let s ← Act.get
  let outcome := s.aliases.define name text
  noteAll (defineNotes name text outcome)
  match outcome with
  | .ok t =>
      Act.modify fun s => { s with aliases := t }
      return .text s!"Alias '{name}' created"
  | .error e =>
      Act.writeErr e.message
      return .nothing

/-- Doing what is asked. -/
def runAlias : AliasRequest → Act Reply
  | .all => do return listReply (← Act.get).aliases
  | .one name => do return showReply (← Act.get).aliases name
  | .define name text => defineAlias name text

/-- The command `alias`. -/
def aliases : Command where
  manual :=
    { summary := "Define or show aliases"
      examples := "alias ll=\"ls -l\"\nalias ll ls -l\nalias\nalias ll" }
  run _ args := runAlias (.ofArgs args)

end Command

end LineShell
