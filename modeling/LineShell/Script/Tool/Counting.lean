import LineShell.Script.Tool.Lines

/-!
# Counting

A tool that counts the lines, words and octets of files.

Main statement: `countsOf_append`, by which the lines and octets of two texts add up.
-/

namespace LineShell

namespace Script

namespace Tool

/-- How many words a text has. Octets that cannot be printed neither end a word nor make one. -/
def wordCount (cs : Octets) : Nat :=
  ((cs.splitBy fun a b => isSpace a == isSpace b).filter fun w =>
    w.any fun c => isPrintable c && c != ' ').length

/-- The columns that the longest line takes. -/
def widest (cs : Octets) : Nat :=
  (cs.splitBy fun a b => !isEnd a && !isEnd b).foldl (fun n l => max n (columns l)) 0
where
  /-- Whether a character ends a line as far as its width goes. -/
  isEnd (c : Char) : Bool := c == '\n' || c == '\r' || c == '\x0c'
  /-- The columns of a line. -/
  columns (l : Octets) : Nat :=
    l.foldl (fun n c => if c = '\t' then n / 8 * 8 + 8
      else if isPrintable c then n + 1 else n) 0

/-- What is counted of a text. -/
structure Counts where
  /-- The ends of lines. -/
  lines : Nat
  /-- The words. -/
  words : Nat
  /-- The octets. -/
  octets : Nat
  /-- The columns of the widest line. -/
  width : Nat
deriving DecidableEq, Repr

namespace Counts

/-- The counts of nothing. -/
def zero : Counts := ⟨0, 0, 0, 0⟩

/-- The counts of several texts; of the widths the greatest. -/
def add (a b : Counts) : Counts :=
  ⟨a.lines + b.lines, a.words + b.words, a.octets + b.octets, max a.width b.width⟩

/-- The count that a letter stands for; each octet is a character. -/
def ofLetter (n : Counts) : Char → Nat
  | 'l' => n.lines
  | 'w' => n.words
  | 'L' => n.width
  | _ => n.octets

end Counts

/-- The counts of a text. -/
def countsOf (cs : Octets) : Counts := ⟨cs.count '\n', wordCount cs, cs.length, widest cs⟩

/-- The lines and octets of two texts add up. -/
theorem countsOf_append (a b : Octets) :
    (countsOf (a ++ b)).lines = (countsOf a).lines + (countsOf b).lines ∧
      (countsOf (a ++ b)).octets = (countsOf a).octets + (countsOf b).octets := by
  simp [countsOf]

/-- The options for counting. -/
def wcRules : OptionRules :=
  ⟨"clLmwδφ:τ:", [("bytes", 'c'), ("chars", 'm'), ("lines", 'l'), ("words", 'w'), ("debug", 'δ'),
    ("files0-from", 'φ'), ("max-line-length", 'L'), ("total", 'τ')], true, 1⟩

/-- When the sums of all files are written. -/
inductive TotalRule where
  /-- Where there are several files. -/
  | auto
  /-- Always. -/
  | always
  /-- Always, and nothing else. -/
  | only
  /-- Never. -/
  | never
deriving DecidableEq, Repr

/-- The words for when the sums are written. -/
def TotalRule.words : List (String × TotalRule) :=
  [("auto", .auto), ("always", .always), ("only", .only), ("never", .never)]

/-- The files of which something is counted: operands, or the names in a file, each of which ends with
the null character. -/
def countedFiles (c : Call) (a : Arguments) : Task (List Octets) := do
  match a.value? 'φ', a.operands with
  | none, operands => return operands
  | some _, name :: _ => do
      say c (octetsOf "extra operand " ++ quoteAlways name)
      complain (octetsOf "file operands cannot be combined with --files0-from")
      pointToManual c
      throw 1
  | some listing, [] => match ← readSource listing with
    | .ok cs => return piecesOf '\x00' cs
    | .error e => failWith c 1 (octetsOf "cannot open " ++ quoteAlways listing ++
        octetsOf " for reading: " ++ octetsOf e)

/-- The size of what stands under a name, if it is known before it is read; nothing if there is no
such file. -/
def knownSize (name : Octets) : Task (Option (Option Nat)) := do
  if name = ['-'] then return some (← get).fileSize
  else match ← node name with
    | .ok n => match n with
      | .file bytes => return some (some bytes.length)
      | _ => return some none
    | .error _ => return none

/-- How wide a number is written. -/
def countWidth (names : List Octets) (fields : Nat) : Task Nat := do
  if names.length = 1 && fields = 1 then return 1
  else do
    let known := (← names.mapM knownSize).filterMap id
    let least := if known.any Option.isNone then 7 else 1
    return max least (Numeral.length ((known.filterMap id).foldl (· + ·) 0))

/-- Counting lines, words and octets. -/
def wc : Tool := fun c => do
  let a ← arguments wcRules c
  let rule ← match a.value? 'τ' with
    | none => pure TotalRule.auto
    | some w => wordOf c "--total" TotalRule.words w
  let names ← countedFiles c a
  let isInput := names.isEmpty && (a.value? 'φ').isNone
  let names := if isInput then [['-']] else names
  let letters := "lwmcL".toList.filter fun k =>
    if a.hasAny "lwmcL" then a.has k else k != 'm' && k != 'L'
  let width ← if rule = .only then pure 1 else countWidth names letters.length
  let line (n : Counts) (name : Octets) : Octets :=
    joined (letters.map fun k => aligned width (n.ofLetter k)) ++
      (if name.isEmpty then [] else ' ' :: name) ++ ['\n']
  let results ← names.mapM fun n => do
    let shown := if isInput then [] else quoteIfNeeded n
    let (counts, fault) ← match ← readSource n with
      | .ok cs => pure (some (countsOf cs), false)
      | .error e => do
          sayOf c n e
          pure (if e = "Is a directory" then some .zero else none, true)
    if rule ≠ .only then counts.forM fun k => write (line k shown)
    return (counts.getD .zero, fault)
  let total := (results.map Prod.fst).foldl Counts.add .zero
  let isTotal : Bool := match rule with
    | .auto => names.length > 1
    | .always => true
    | .only => true
    | .never => false
  if isTotal then write (line total (if rule = .only then [] else octetsOf "total"))
  return codeOf (results.map Prod.snd)

end Tool

end Script

end LineShell
