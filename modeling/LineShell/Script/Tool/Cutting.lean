import LineShell.Script.Tool.Lines

/-!
# Pieces of lines

A tool that picks octets or fields out of lines. What is picked is told by a list of stretches of
numbers.

Main statement: `pick_everything`, by which all is picked where a stretch begins at one and has no end.
-/

namespace LineShell

namespace Script

namespace Cutting

/-! ### Lists of stretches -/

/-- A stretch of numbers, from one to another or without an end. -/
structure Stretch where
  /-- The first number. -/
  first : Nat
  /-- The last number. -/
  last : Option Nat
deriving DecidableEq, Repr

/-- Whether a number lies in a stretch. -/
def Stretch.has (s : Stretch) (n : Nat) : Bool := s.first ≤ n && s.last.all (n ≤ ·)

/-- What is wrong with a list of stretches. -/
inductive ListError where
  /-- Something is no number. -/
  | invalid (cs : Octets)
  /-- A number is greater than can be counted to. -/
  | tooLarge (ds : Octets)
  /-- A number is zero, or missing. -/
  | zero
  /-- A stretch has three ends. -/
  | threeEnds
  /-- A stretch has its ends the wrong way round. -/
  | decreasing
  /-- A stretch has no ends. -/
  | noEnds
deriving DecidableEq, Repr

/-- The wording of a fault of a list of fields, or of octets. -/
def ListError.message (fields : Bool) : ListError → Octets
  | invalid cs => octetsOf (if fields then "invalid field value "
      else "invalid byte/character position ") ++ Tool.quoteText cs
  | tooLarge ds => octetsOf (if fields then "field number " else "byte/character offset ") ++
      Tool.quoteText ds ++ octetsOf " is too large"
  | zero => octetsOf (if fields then "fields are numbered from 1"
      else "byte/character positions are numbered from 1")
  | threeEnds => octetsOf (if fields then "invalid field range"
      else "invalid byte or character range")
  | decreasing => octetsOf "invalid decreasing range"
  | noEnds => octetsOf "invalid range with no endpoint: -"

/-- A stretch that is being read. -/
structure Partial where
  /-- The digits before the dash. -/
  left : Octets
  /-- The digits behind the dash, if there is one. -/
  right : Option Octets

namespace Partial

/-- Nothing of a stretch. -/
def empty : Partial := ⟨[], none⟩

/-- The stretch with a digit more. -/
def push (d : Char) (p : Partial) : Partial :=
  match p.right with
  | none => { p with left := p.left ++ [d] }
  | some ds => { p with right := some (ds ++ [d]) }

/-- The stretch with a dash. -/
def dash (p : Partial) : Except ListError Partial :=
  if p.right.isSome then .error .threeEnds
  else if !p.left.isEmpty && ofDigits p.left = 0 then .error .zero
  else .ok { p with right := some [] }

/-- The stretch that has been read. -/
def finish (p : Partial) : Except ListError Stretch :=
  let first := if p.left.isEmpty then 1 else ofDigits p.left
  match p.right with
  | none =>
      if p.left.isEmpty || ofDigits p.left = 0 then .error .zero else .ok ⟨first, some first⟩
  | some [] => if p.left.isEmpty then .error .noEnds else .ok ⟨first, none⟩
  | some ds => if ofDigits ds < first then .error .decreasing else .ok ⟨first, some (ofDigits ds)⟩

end Partial

/-- The stretches that a text writes, given what has been read of the first. -/
def readFrom (p : Partial) : Octets → Except ListError (List Stretch)
  | [] => do return [← p.finish]
  | c :: cs =>
      if c = '-' then do readFrom (← p.dash) cs
      else if c = ',' || isBlank c then do
        let s ← p.finish
        return s :: (← readFrom .empty cs)
      else if isAsciiDigit c then
        let q := p.push c
        let ds := q.right.getD q.left
        if 2 ^ 64 - 1 ≤ ofDigits ds then .error (.tooLarge (ds ++ cs.takeWhile isAsciiDigit))
        else readFrom q cs
      else .error (.invalid (c :: cs))

/-- The stretches that a text writes. -/
def readList (cs : Octets) : Except ListError (List Stretch) := readFrom .empty cs

/-! ### Picking -/

/-- Stretches in order, those that overlap made one. -/
def merge : List Stretch → List Stretch
  | s :: t :: rest =>
      match s.last with
      | none => [s]
      | some m =>
          if t.first ≤ m then merge (⟨s.first, t.last.map (max m)⟩ :: rest)
          else s :: merge (t :: rest)
  | ss => ss
termination_by ss => ss.length

/-- What is picked, and what it is that is picked. -/
structure Choice where
  /-- The stretches, which do not overlap, in order. -/
  stretches : List Stretch
deriving DecidableEq, Repr

/-- The numbers outside stretches, from a number on. -/
def outside (first : Nat) : List Stretch → List Stretch
  | [] => [⟨first, none⟩]
  | s :: rest =>
      let gap : List Stretch :=
        if first < s.first then [⟨first, some (s.first - 1)⟩] else []
      match s.last with
      | none => gap
      | some m => gap ++ outside (m + 1) rest

/-- The choice of stretches in any order, or of what lies outside them. -/
def Choice.ofList (others : Bool) (ss : List Stretch) : Choice :=
  let sorted := merge (ss.mergeSort fun a b => a.first ≤ b.first)
  ⟨if others then outside 1 sorted else sorted⟩

/-- Whether a number is chosen. -/
def Choice.has (k : Choice) (n : Nat) : Bool := k.stretches.any (·.has n)

/-- Whether a stretch of the choice begins with a number. -/
def Choice.beginsAt (k : Choice) (n : Nat) : Bool := k.stretches.any (·.first == n)

/-- The elements of a list that are chosen, with their numbers. -/
def Choice.pick {α : Type} (k : Choice) (as : List α) : List (Nat × α) :=
  (as.mapIdx fun i a => (i + 1, a)).filter fun e => k.has e.1

/-- All is picked where a stretch begins at one and has no end. -/
theorem pick_everything {α : Type} (as : List α) :
    (Choice.pick ⟨[⟨1, none⟩]⟩ as).map Prod.snd = as := by
  have h : ∀ e : Nat × α, e ∈ (as.mapIdx fun i a => (i + 1, a)) →
      Choice.has ⟨[⟨1, none⟩]⟩ e.1 = true := by
    intro e he
    obtain ⟨i, hi, rfl⟩ := List.mem_mapIdx.mp he
    simp [Choice.has, Stretch.has]
  rw [Choice.pick, List.filter_eq_self.mpr h]
  exact List.ext_getElem (by simp) (by simp)

/-- The octets of a line that are chosen, with something between the stretches. -/
def Choice.cutOctets (k : Choice) (between : Octets) (l : Octets) : Octets :=
  match k.pick l with
  | [] => []
  | (_, c) :: rest =>
      c :: rest.flatMap fun (n, c) => if k.beginsAt n then between ++ [c] else [c]

/-- The fields of a line that are chosen, with something between them; a line without marks is a
single piece, which may be left out. -/
def Choice.cutFields (k : Choice) (mark : Char) (between : Octets) (onlyMarked : Bool)
    (l : Octets) : Option Octets :=
  if !l.contains mark then (if onlyMarked then none else some l)
  else some (between.intercalate ((k.pick (l.splitOn mark)).map Prod.snd))

end Cutting

namespace Tool

open Cutting

/-- The options for pieces of lines. -/
def cutRules : OptionRules :=
  ⟨"b:c:d:f:nszδ:κ", [("bytes", 'b'), ("characters", 'c'), ("fields", 'f'), ("delimiter", 'd'),
    ("only-delimited", 's'), ("output-delimiter", 'δ'), ("complement", 'κ'),
    ("zero-terminated", 'z')], true, 1⟩

/-- What is said about options for pieces of lines, the first of which may be faulty already; a list
may have been given before. -/
def cutFault? : Bool → List (Char × Octets) → Option String
  | hasList, [] => if hasList then none
      else some "you must specify a list of bytes, characters, or fields"
  | hasList, (k, v) :: rest =>
      if "bcf".toList.contains k then
        if hasList then some "only one list may be specified" else cutFault? true rest
      else if k = 'd' && 1 < v.length then some "the delimiter must be a single character"
      else cutFault? hasList rest

/-- Writing pieces of lines. -/
def cut : Tool := fun c => do
  let a ← arguments cutRules c
  (cutFault? false a.options).forM fun fault => failUsage c 1 (octetsOf fault)
  let (letter, text) := (a.last? "bcf").getD ('f', [])
  let fields := letter == 'f'
  if (a.value? 'd').isSome && !fields then
    failUsage c 1 (octetsOf "an input delimiter may be specified only when operating on fields")
  else if a.has 's' && !fields then
    failUsage c 1
      (octetsOf "suppressing non-delimited lines makes sense\n\tonly when operating on fields")
  else match readList text with
    | .error e => failUsage c 1 (e.message fields)
    | .ok stretches => do
        let k := Choice.ofList (a.has 'κ') stretches
        let mark := ((a.value? 'd').map fun v => v.headD '\x00').getD '\t'
        let given := (a.value? 'δ').map fun v => if v.isEmpty then ['\x00'] else v
        let between := given.getD (if fields then [mark] else [])
        let m := lineMark a
        let (parts, isWhole) ← readAll c a.operands
        write (unpieces m (parts.flatMap fun e =>
          let ls := if fields && mark == m then
              (if e.2.isEmpty then [] else [[m].intercalate (piecesOf m e.2)])
            else piecesOf m e.2
          ls.filterMap fun l =>
            if fields then k.cutFields mark between (a.has 's') l
            else some (k.cutOctets between l)))
        return if isWhole then 0 else 1

end Tool

end Script

end LineShell
