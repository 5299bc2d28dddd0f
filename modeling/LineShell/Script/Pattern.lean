import LineShell.Disk.Basic
import LineShell.Script.Octets

/-!
# Patterns

An unquoted star stands for any text, an unquoted question mark for any one octet, and brackets for
one octet out of those between them. A word with such marks stands for the names on the disk that
it fits, in order; a word that fits none stands for itself. A name that begins with a dot is fitted
only by a pattern that begins with one.

Main statements: `fits_literal_iff`, by which a pattern without marks fits one text alone, and
`fits_any`, by which a star fits every text.
-/

namespace LineShell

namespace Script

/-- An octet of a word, with whether it stands for itself. -/
structure Glyph where
  /-- The octet. -/
  octet : Char
  /-- Whether it has lost any other meaning. -/
  literal : Bool
deriving DecidableEq, Repr

/-- Octets as glyphs. -/
def glyphs (literal : Bool) (cs : Octets) : List Glyph := cs.map fun c => ⟨c, literal⟩

/-- Glyphs as octets. -/
def octetsOfGlyphs (gs : List Glyph) : Octets := gs.map Glyph.octet

/-- Whether a glyph is an unquoted octet. -/
def Glyph.isBare (g : Glyph) (c : Char) : Bool := g.octet == c && !g.literal

/-- A mark of a pattern. -/
inductive Mark where
  /-- One octet. -/
  | octet (c : Char)
  /-- Any one octet. -/
  | one
  /-- Any text. -/
  | any
  /-- One octet that lies in one of the ranges, or in none of them. -/
  | set (inside : Bool) (ranges : List (Char × Char))
deriving DecidableEq, Repr

/-! ### Reading patterns -/

/-- The ranges of the classes of octets. -/
def classRanges : List (String × List (Char × Char)) :=
  [("alpha", [('a', 'z'), ('A', 'Z')]), ("digit", [('0', '9')]),
    ("alnum", [('a', 'z'), ('A', 'Z'), ('0', '9')]), ("upper", [('A', 'Z')]),
    ("lower", [('a', 'z')]), ("space", [('\t', '\r'), (' ', ' ')]),
    ("blank", [('\t', '\t'), (' ', ' ')]), ("punct", [('!', '/'), (':', '@'), ('[', '`'),
    ('\x7b', '~')]), ("print", [(' ', '~')]), ("graph", [('!', '~')]),
    ("cntrl", [('\x00', '\x1f'), ('\x7f', '\x7f')]),
    ("xdigit", [('0', '9'), ('a', 'f'), ('A', 'F')])]

/-- The class of octets that stands in front, with its length. -/
def className? (gs : List Glyph) : Option (List (Char × Char) × Nat) :=
  match octetsOfGlyphs gs with
  | '[' :: ':' :: cs =>
      let name := cs.takeWhile Char.isAlpha
      match cs.drop name.length with
      | ':' :: ']' :: _ =>
          (classRanges.lookup (String.ofList name)).map fun rs => (rs, name.length + 4)
      | _ => none
  | _ => none

/-- The ranges between brackets, behind the first, and the rest. A bracket that stands first counts
as one of the octets. The number bounds the steps. -/
def rangesFrom : Nat → Bool → List Glyph → Option (List (Char × Char) × List Glyph)
  | 0, _, _ => none
  | _, _, [] => none
  | n + 1, first, g :: gs =>
      if g.isBare ']' && !first then some ([], gs)
      else match className? (g :: gs) with
        | some (rs, length) =>
            (rangesFrom n false ((g :: gs).drop length)).map fun r => (rs ++ r.1, r.2)
        | none => match gs with
          | h :: k :: rest =>
              if h.isBare '-' && !k.isBare ']' then
                (rangesFrom n false rest).map fun r => ((g.octet, k.octet) :: r.1, r.2)
              else (rangesFrom n false gs).map fun r => ((g.octet, g.octet) :: r.1, r.2)
          | _ => (rangesFrom n false gs).map fun r => ((g.octet, g.octet) :: r.1, r.2)

/-- The set of octets between brackets, behind the first of them, and the rest. -/
def set? (gs : List Glyph) : Option (Mark × List Glyph) :=
  match gs with
  | g :: rest =>
      if g.isBare '!' || g.isBare '^' then
        (rangesFrom (rest.length + 1) true rest).map fun r => (.set false r.1, r.2)
      else (rangesFrom (gs.length + 1) true gs).map fun r => (.set true r.1, r.2)
  | [] => none

/-- The marks of a pattern. A backslash takes its meaning from the octet behind it. The number
bounds the steps. -/
def marksFrom : Nat → List Glyph → List Mark
  | 0, _ => []
  | _, [] => []
  | n + 1, g :: gs =>
      if g.literal then .octet g.octet :: marksFrom n gs
      else if g.octet = '*' then .any :: marksFrom n gs
      else if g.octet = '?' then .one :: marksFrom n gs
      else if g.octet = '[' then match set? gs with
        | some (m, rest) => m :: marksFrom n rest
        | none => .octet '[' :: marksFrom n gs
      else if g.octet = '\\' then match gs with
        | h :: rest => .octet h.octet :: marksFrom n rest
        | [] => [.octet '\\']
      else .octet g.octet :: marksFrom n gs

/-- The marks of a pattern. -/
def marksOf (gs : List Glyph) : List Mark := marksFrom gs.length gs

/-- Whether a mark stands for more than one octet. -/
def Mark.isOpen : Mark → Bool
  | octet _ => false
  | _ => true

/-! ### Fitting -/

/-- Whether an octet lies in one of the ranges. -/
def inRanges (rs : List (Char × Char)) (c : Char) : Bool := rs.any fun r => r.1 ≤ c && c ≤ r.2

/-- Whether a mark for one octet stands for an octet. -/
def Mark.admits (m : Mark) (c : Char) : Bool :=
  match m with
  | octet d => c == d
  | one => true
  | any => true
  | set inside rs => inRanges rs c == inside

/-- Whether a text fits a pattern. -/
def fits : List Mark → Octets → Bool
  | [], cs => cs.isEmpty
  | m :: ms, [] => m == .any && fits ms []
  | m :: ms, c :: cs =>
      if m = .any then fits ms (c :: cs) || fits (m :: ms) cs
      else m.admits c && fits ms cs
termination_by ms cs => ms.length + cs.length

/-- The marks of quoted octets are those octets. -/
theorem marksOf_literal (cs : Octets) : marksOf (glyphs true cs) = cs.map .octet := by
  have key : ∀ (n : Nat) (cs : Octets), cs.length ≤ n →
      marksFrom n (glyphs true cs) = cs.map .octet := by
    intro n
    induction n with
    | zero =>
      intro cs h
      have : cs = [] := List.eq_nil_of_length_eq_zero (by omega)
      subst this
      rfl
    | succ n ih =>
      intro cs h
      cases cs with
      | nil => rfl
      | cons c cs =>
        have hn : cs.length ≤ n := by simpa using h
        simpa [glyphs, marksFrom] using ih cs hn
  simpa [marksOf, glyphs] using key cs.length cs (Nat.le_refl _)

/-- A pattern whose marks are octets fits one text alone. -/
theorem fits_literal_iff {cs ds : Octets} : fits (cs.map .octet) ds = true ↔ cs = ds := by
  induction cs generalizing ds with
  | nil => cases ds <;> simp [fits]
  | cons c cs ih =>
    cases ds with
    | nil => simp [fits]
    | cons d ds =>
      simp only [List.map_cons, fits, reduceCtorEq, if_false, Bool.and_eq_true, ih, Mark.admits,
        beq_iff_eq, List.cons.injEq]
      constructor
      · exact fun h => ⟨h.1.symm, h.2⟩
      · exact fun h => ⟨h.1.symm, h.2⟩

/-- A star fits every text. -/
theorem fits_any (cs : Octets) : fits [.any] cs = true := by
  induction cs with
  | nil => simp [fits]
  | cons c cs ih => simp [fits, ih]

/-! ### Parts of texts -/

/-- The lengths up to a number, beginning with the greatest or the least. -/
def lengths (n : Nat) (longest : Bool) : List Nat :=
  if longest then (List.range (n + 1)).reverse else List.range (n + 1)

/-- A text without what a pattern fits at one end, the most or the least of it. -/
def trim (ms : List Mark) (atEnd longest : Bool) (cs : Octets) : Octets :=
  let found := (lengths cs.length longest).find? fun n =>
    fits ms (if atEnd then cs.drop (cs.length - n) else cs.take n)
  match found with
  | some n => if atEnd then cs.take (cs.length - n) else cs.drop n
  | none => cs

/-- The most that a pattern fits at the beginning of a text, as a length. -/
def longestAt? (ms : List Mark) (cs : Octets) : Option Nat :=
  (lengths cs.length true).find? fun n => fits ms (cs.take n)

/-- A text with what a pattern fits replaced, the first time or always. The number bounds the
steps. -/
def replaceFrom (ms : List Mark) (new : Octets) (all : Bool) : Nat → Octets → Octets
  | 0, cs => cs
  | _, [] => []
  | n + 1, c :: cs => match longestAt? ms (c :: cs) with
    | some (k + 1) =>
        let rest := (c :: cs).drop (k + 1)
        new ++ (if all then replaceFrom ms new all n rest else rest)
    | _ => c :: replaceFrom ms new all n cs

/-! ### Names on the disk -/

/-- The names in a directory, in order. -/
def namesIn (d : Disk) (path : Octets) : List Octets :=
  let path := if path.isEmpty then ['.'] else path
  match d.findText (String.ofList (textOf path)) with
  | .ok (.directory es) => (es.map fun e => octetsOf e.1).mergeSort octetsLe
  | _ => []

/-- Whether anything, even a link that leads nowhere, stands at a path. -/
def isThere (d : Disk) (path : Octets) : Bool :=
  let s := String.ofList (textOf path)
  ((d.placeOf false (Path.isAbsoluteText s) (Path.stepsOf s)).toOption.bind d.nodeAt).isSome

/-- The names in a directory that a pattern fits. -/
def fittingNames (d : Disk) (directory : Octets) (gs : List Glyph) : List Octets :=
  let ms := marksOf gs
  if ms.any Mark.isOpen then
    let names := namesIn d directory ++ [['.'], ['.', '.']]
    (names.filter fun cs => fits ms cs && (cs.head? != some '.' || ms.head? == some (.octet '.')))
  else [ms.filterMap fun
    | .octet c => some c
    | _ => none]

/-- The paths on the disk that fit patterns, one pattern for each name, behind what is fixed. -/
def fittingPaths (d : Disk) (before : Octets) : List (List Glyph) → List Octets
  | [] => []
  | [gs] => ((fittingNames d before gs).map (before ++ ·)).filter (isThere d)
  | gs :: rest =>
      (fittingNames d before gs).flatMap fun name => fittingPaths d (before ++ name ++ ['/']) rest

/-- Whether a word has marks. -/
def isPattern (gs : List Glyph) : Bool := (marksOf gs).any Mark.isOpen

/-- The paths that a word stands for. -/
def expandPattern (d : Disk) (gs : List Glyph) : List Octets :=
  if isPattern gs then
    (fittingPaths d [] (gs.splitOnP fun g => g.octet == '/')).mergeSort octetsLe
  else []

end Script

end LineShell
