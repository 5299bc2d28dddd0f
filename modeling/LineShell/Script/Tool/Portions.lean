import LineShell.Script.Tool.Lines
import LineShell.Script.Tool.Quantity

/-!
# The first and the last lines

Tools that write a portion of a text: so many lines or octets at its beginning or its end, or all but
those.

Main statement: `Portion.first_append_rest`, by which what is first and what is left without it make the
text.
-/

namespace LineShell

namespace Script

namespace Tool

/-! ### Portions -/

/-- Which part of a text is wanted. -/
structure Portion where
  /-- The mark that ends what is counted; octets are counted if there is none. -/
  mark : Option Char
  /-- How many. -/
  count : Nat
  /-- Whether all but those are wanted. -/
  isRest : Bool
deriving DecidableEq, Repr

/-- The units of a text that are counted. -/
def Portion.units (p : Portion) (cs : Octets) : List Octets :=
  match p.mark with
  | some m => keptPieces m cs
  | none => cs.map fun c => [c]

/-- The portion at the beginning of a text, or all but so much at its end. -/
def Portion.first (p : Portion) (cs : Octets) : Octets :=
  let us := p.units cs
  (us.take (if p.isRest then us.length - p.count else p.count)).flatten

/-- The portion at the end of a text, or that from a unit on. -/
def Portion.last (p : Portion) (cs : Octets) : Octets :=
  let us := p.units cs
  (us.drop (if p.isRest then p.count - 1 else us.length - p.count)).flatten

/-- What is first and what begins behind it make the text. -/
theorem Portion.first_append_rest {m : Option Char} {n : Nat} {cs : Octets} :
    (⟨m, n, false⟩ : Portion).first cs ++ (⟨m, n + 1, true⟩ : Portion).last cs =
      ((⟨m, n, false⟩ : Portion).units cs).flatten := by
  simp only [Portion.first, Portion.last, Portion.units, Bool.false_eq_true, if_false, if_true,
    Nat.add_sub_cancel]
  rw [← List.flatten_append, List.take_append_drop]

/-! ### Writing them -/

/-- How portions of files are written. -/
structure PortionRequest where
  /-- The portion. -/
  portion : Portion
  /-- Whether the name of each file stands above it; if that is not said, it does where there are
  several. -/
  titled : Option Bool
  /-- The files. -/
  names : List Octets

/-- What is counted, in words. -/
def unitName (lines : Bool) : String := if lines then "lines" else "bytes"

/-- The number that is the value of an option. -/
def portionCount (c : Call) (lines : Bool) (value : Octets) : Task Nat :=
  quantity c countUnits 0 maxWord ("invalid number of " ++ unitName lines) value

/-- Whether files are to have titles, as options ask for it. -/
def titledBy (a : Arguments) : Option Bool := (a.last? "qv").map (·.1 == 'v')

/-- Writing portions of files. -/
def writePortions (part : Portion → Octets → Octets) (r : PortionRequest) (c : Call) :
    Task Nat := do
  let names := sourcesOf r.names
  let titled := r.titled.getD (names.length > 1)
  forEach names fun n => do
    let isFirst := (← get).written.all fun e => e.1 != 1
    let title : Octets :=
      let shown := if n = ['-'] then octetsOf "standard input" else n
      if titled then
        (if isFirst then [] else ['\n']) ++ octetsOf "==> " ++ shown ++ octetsOf " <==\n"
      else []
    match ← readSource n with
    | .ok cs => do
        write (title ++ part r.portion cs)
        return true
    | .error e => do
        if e = "Is a directory" then
          write title
          say c (octetsOf "error reading " ++ quoteAlways n ++ octetsOf ": " ++ octetsOf e)
        else
          say c (octetsOf "cannot open " ++ quoteAlways n ++ octetsOf " for reading: " ++
            octetsOf e)
        return false

/-! ### The first lines -/

/-- The options for the first lines. -/
def headRules : OptionRules :=
  ⟨"c:n:qvz0123456789π", [("bytes", 'c'), ("lines", 'n'), ("-presume-input-pipe", 'π'),
    ("quiet", 'q'), ("silent", 'q'), ("verbose", 'v'), ("zero-terminated", 'z')], true, 1⟩

/-- Refusing an option behind a number. -/
def failTrailing {α : Type} (c : Call) (o : Char) : Task α :=
  failUsage c 1 (octetsOf "invalid trailing option -- " ++ [o])

/-- The options that an argument in the old notation stands for, a number with letters behind it. -/
def oldHeadOptions (c : Call) (digits letters : Octets) : Task (List (Char × Octets)) := do
  match letters.find? fun o => !"cbkmlqvz".toList.contains o with
  | some o => failTrailing c o
  | none =>
      let unit := (letters.filter "cbkml".toList.contains).getLast?
      let multiplier := (letters.filter "cbkm".toList.contains).getLast?
      let count := digits ++ (multiplier.filter (· != 'c')).toList
      let isLines := unit.all (· == 'l')
      return (if isLines then 'n' else 'c', count) ::
        (letters.filter "qvz".toList.contains).map fun o => (o, [])

/-- Writing the first lines. -/
def head : Tool := fun c => do
  let (old, args) ← match c.args with
    | ('-' :: d :: ds) :: rest =>
        if isAsciiDigit d then do
          let digits := (d :: ds).takeWhile isAsciiDigit
          pure (← oldHeadOptions c digits ((d :: ds).drop digits.length), rest)
        else pure ([], c.args)
    | args => pure ([], args)
  let a ← arguments headRules { c with args := args }
  match a.options.find? fun o => isAsciiDigit o.1 with
  | some o => failTrailing c o.1
  | none => do
      let a := a.withOptions old
      let (letter, value) := (a.last? "nc").getD ('n', "10".toList)
      let lines := letter == 'n'
      let isRest := value.head? = some '-'
      let n ← portionCount c lines (if isRest then value.drop 1 else value)
      let mark := if lines then some (lineMark a) else none
      writePortions Portion.first ⟨⟨mark, n, isRest⟩, titledBy a, a.operands⟩ c

/-! ### The last lines -/

/-- The options for the last lines. -/
def tailRules : OptionRules :=
  ⟨"c:n:fFqs:vz0123456789δμ:π:ρσφ::", [("bytes", 'c'), ("follow", 'φ'), ("lines", 'n'),
    ("max-unchanged-stats", 'μ'), ("-disable-inotify", 'δ'), ("pid", 'π'),
    ("-presume-input-pipe", 'σ'), ("quiet", 'q'), ("retry", 'ρ'), ("silent", 'q'),
    ("sleep-interval", 's'), ("verbose", 'v'), ("zero-terminated", 'z')], true, 1⟩

/-- Whether arguments are few enough for the old notation: one file stands behind it at the most. -/
def allowsOldTail : List Octets → Bool
  | [_] => true
  | [_, file] => !(file.head? = some '-' && file.length != 1) || file = ['-', '-']
  | [_, mark, _] => mark = ['-', '-']
  | _ => false

/-- The option that an argument in the old notation stands for: a sign, a number, and a letter for
what is counted. -/
def oldTailOption? (arg : Octets) : Option (Char × Octets) :=
  match arg with
  | sign :: cs =>
      let digits := cs.takeWhile isAsciiDigit
      let letter := cs.drop digits.length
      let count (n : Octets) : Octets := if sign = '+' then '+' :: n else n
      let isSign := sign = '+' || (sign = '-' && cs ≠ [] && cs ≠ ['c'])
      let value (factor : Nat) : Octets :=
        count (if digits.isEmpty then Numeral.digits (10 * factor) else digits)
      if !isSign then none
      else if letter = [] && !(digits.isEmpty && sign = '-') || letter = ['l'] then
        some ('n', value 1)
      else if letter = ['c'] then some ('c', value 1)
      else if letter = ['b'] then
        some ('c', if digits.isEmpty then value 512 else value 1 ++ ['b'])
      else none
  | [] => none

/-- Writing the last lines. -/
def tail : Tool := fun c => do
  let old := if allowsOldTail c.args then (c.args.head?.bind oldTailOption?).toList else []
  let a ← arguments tailRules { c with args := c.args.drop old.length }
  match a.options.find? fun o => isAsciiDigit o.1 with
  | some o => failWith c 1 (octetsOf "option used in invalid context -- " ++ [o.1])
  | none => do
      let a := a.withOptions old
      let (letter, value) := (a.last? "nc").getD ('n', "10".toList)
      let lines := letter == 'n'
      let n ← portionCount c lines (if value.head? = some '-' then value.drop 1 else value)
      let mark := if lines then some (lineMark a) else none
      writePortions Portion.last ⟨⟨mark, n, value.head? = some '+'⟩, titledBy a, a.operands⟩ c

end Tool

end Script

end LineShell
