import LineShell.Script.Tool.Lines
import LineShell.Script.Tool.Quantity

/-!
# Columns

Tools that put lines beside one another, cut them to a width, and turn tabulators into blanks and blanks
into tabulators.

Main statement: `nextStop_gt`, by which a tabulator always leads further to the right.
-/

namespace LineShell

namespace Script

namespace Tool

/-! ### Lines beside one another -/

/-- Fields with marks between them, which are used in turn; a mark may be nothing. -/
def joinFields (marks : List Octets) (i : Nat) : List Octets → Octets
  | [] => []
  | [f] => f
  | f :: fs => f ++ (marks[i % marks.length]?).getD [] ++ joinFields marks (i + 1) fs

/-- Lines beside one another, until all columns are at their end. The number bounds the rows. -/
def beside (marks : List Octets) : Nat → List (List Octets) → List Octets
  | 0, _ => []
  | n + 1, columns =>
      if columns.all List.isEmpty then []
      else joinFields marks 0 (columns.map (·.headD [])) ::
        beside marks n (columns.map (·.drop 1))

/-- Columns of sources with their names; those of the input take its lines in turn. -/
def sharedColumns (inputs : Nat) (input : List Octets) : Nat → List (Octets × List Octets) →
    List (List Octets)
  | _, [] => []
  | i, (n, ls) :: rest =>
      if n = ['-'] then
        ((input.mapIdx fun j l => (j, l)).filterMap fun e =>
          if e.1 % inputs = i then some e.2 else none) :: sharedColumns inputs input (i + 1) rest
      else ls :: sharedColumns inputs input i rest

/-- The columns of sources. -/
def columnsOf (sources : List (Octets × List Octets)) : List (List Octets) :=
  let inputs := sources.filter (·.1 = ['-'])
  sharedColumns inputs.length (inputs.flatMap Prod.snd) 0 sources

/-- The marks that a text lists, with the letters behind backslashes read; a zero stands for nothing.
There are none if a backslash stands at the end. -/
def readMarks? : Octets → Option (List Octets)
  | [] => some []
  | ['\\'] => none
  | '\\' :: c :: cs => do
      let m : Octets := if c = '0' then [] else match c with
        | 'b' => ['\x08']
        | 'f' => ['\x0c']
        | 'n' => ['\n']
        | 'r' => ['\r']
        | 't' => ['\t']
        | 'v' => ['\x0b']
        | c => [c]
      return m :: (← readMarks? cs)
  | c :: cs => do return [c] :: (← readMarks? cs)

/-- Writing the lines of files beside one another. -/
def paste : Tool := fun c => do
  let a ← arguments ⟨"d:sz", [("serial", 's'), ("delimiters", 'd'), ("zero-terminated", 'z')],
    true, 1⟩ c
  let given := (a.value? 'd').getD ['\t']
  match readMarks? given with
  | none => failWith c 1 (octetsOf "delimiter list ends with an unescaped backslash: " ++
      octetsOf (String.ofList given))
  | some marks => do
      let m := lineMark a
      let names := sourcesOf a.operands
      if a.has 's' then
        forEach names fun n => do
          match ← readSource n with
          | .ok cs => do
              write (joinFields marks 0 (piecesOf m cs) ++ [m])
              return true
          | .error e => do
              sayOf c n e
              return false
      else do
        let sources ← names.mapM fun n => do
          match ← readSource n with
          | .ok cs => return (n, piecesOf m cs)
          | .error e => failWith c 1 (quoteIfNeeded n ++ octetsOf ": " ++ octetsOf e)
        let columns := columnsOf sources
        let rows := (columns.map List.length).foldl max 0
        write (unpieces m (beside marks rows columns))
        return 0

/-! ### Cutting to a width -/

/-- The column behind an octet that is written at a column. -/
def columnBehind (octets : Bool) (column : Nat) (c : Char) : Nat :=
  if octets then column + 1
  else if c = '\x08' then column - 1
  else if c = '\r' then 0
  else if c = '\t' then column / 8 * 8 + 8
  else column + 1

/-- A line that is being cut. -/
structure Folding where
  /-- The octets that have not been written, the last first. -/
  pending : Octets
  /-- The column behind them. -/
  column : Nat
  /-- What has been written, the last first. -/
  written : Octets

/-- How lines are cut. -/
structure FoldRules where
  /-- The width. -/
  width : Nat
  /-- Whether they are cut behind blanks where there are some. -/
  atBlanks : Bool
  /-- Whether octets are counted rather than columns. -/
  octets : Bool

/-- The column behind octets that begin a line. -/
def FoldRules.columnOf (r : FoldRules) (cs : Octets) : Nat := cs.foldl (columnBehind r.octets) 0

/-- A line with an octet more, which may have to begin the next one. The number bounds the cuts. -/
def FoldRules.push (r : FoldRules) (c : Char) : Nat → Folding → Folding
  | 0, f => { f with pending := c :: f.pending }
  | n + 1, f =>
      let column := columnBehind r.octets f.column c
      if column ≤ r.width || f.pending.isEmpty then { f with pending := c :: f.pending, column }
      else
        let rest := f.pending.takeWhile fun x => !isBlank x
        let kept := f.pending.drop rest.length
        let rest := if r.atBlanks && !kept.isEmpty then rest else []
        let kept := f.pending.drop rest.length
        r.push c n ⟨rest, r.columnOf rest.reverse, '\n' :: (kept ++ f.written)⟩

/-- A line cut to a width. -/
def FoldRules.foldLine (r : FoldRules) (l : Octets) : Octets :=
  let f := l.foldl (fun f c => r.push c 3 f) ⟨[], 0, []⟩
  (f.pending ++ f.written).reverse

/-- The options for cutting lines: a number in the old notation is one as well. -/
def foldRules : OptionRules :=
  ⟨"bsw:0::1::2::3::4::5::6::7::8::9::", [("bytes", 'b'), ("spaces", 's'), ("width", 'w')], true,
    1⟩

/-- Cutting lines to a width. -/
def fold : Tool := fun c => do
  let a ← arguments foldRules c
  let value := match a.last? "w0123456789" with
    | none => "80".toList
    | some ('w', v) => v
    | some (d, v) => d :: v
  let width ← quantity c "" 1 (maxWord - 9) "invalid number of columns" value
  let r : FoldRules := ⟨width, a.has 's', a.has 'b'⟩
  let (parts, isWhole) ← readAll c a.operands
  write (parts.flatMap fun e =>
    ['\n'].intercalate ((e.2.splitOn '\n').map r.foldLine))
  return if isWhole then 0 else 1

/-! ### Tabulators -/

/-- Where tabulators lead to: listed columns, and behind them perhaps columns at equal distances. -/
structure TabStops where
  /-- The listed columns in order. -/
  listed : List Nat
  /-- The distance of the others, and the column from which it is counted; without it there is one blank
  for each tabulator. -/
  distance : Option (Nat × Nat)
deriving DecidableEq, Repr

/-- The column to which a tabulator leads from a column. -/
def TabStops.next (s : TabStops) (column : Nat) : Nat :=
  match s.listed.find? (column < ·), s.distance with
  | some stop, _ => stop
  | none, some (d, start) =>
      if d = 0 then column + 1 else start + ((column - start) / d + 1) * d
  | none, none => column + 1

/-- A tabulator always leads further to the right. -/
theorem nextStop_gt (s : TabStops) (column : Nat) : column < s.next column := by
  unfold TabStops.next
  split
  · next stop h =>
    have := List.find?_some h
    simpa using this
  · next d start _ _ =>
    split
    · omega
    · next hd =>
      have hlt := Nat.lt_mul_div_succ (column - start) (Nat.pos_of_ne_zero hd)
      rw [Nat.mul_comm] at hlt
      omega
  · omega

/-- Whether there is a stop behind a column. -/
def TabStops.hasNext (s : TabStops) (column : Nat) : Bool :=
  s.distance.isSome || s.listed.any (column < ·)

/-- What is wrong with a list of stops. -/
inductive TabFault where
  /-- Something that is no number. -/
  | invalid (cs : Octets)
  /-- A stop at the first column. -/
  | zero
  /-- A stop that is not behind the one before. -/
  | notAscending
deriving DecidableEq, Repr

/-- The wording of a fault of stops. -/
def TabFault.message : TabFault → Octets
  | invalid cs => octetsOf "tab size contains invalid character(s): " ++ quoteText cs
  | zero => octetsOf "tab size cannot be 0"
  | notAscending => octetsOf "tab sizes must be ascending"

/-- The stops with a further list of them, given as the text of an option; a slash or a plus sign before
a number tells that the others are at that distance. The number bounds the steps. -/
def readStops : Nat → TabStops → Option Char → Octets → Except TabFault (TabStops × Option Nat)
  | 0, s, _, _ => .ok (s, none)
  | n + 1, s, mark, cs => match cs.dropWhile fun c => c == ',' || isBlank c with
    | [] => .ok (s, none)
    | c :: rest =>
        if c = '/' || c = '+' then readStops n s (some c) rest
        else
          let digits := (c :: rest).takeWhile isAsciiDigit
          if digits.isEmpty then .error (.invalid (c :: rest))
          else
            let v := ofDigits digits
            let left := (c :: rest).drop digits.length
            match mark with
            | some '/' => readStops n { s with distance := some (v, 0) } none left
            | some _ =>
                readStops n { s with distance := some (v, s.listed.getLast?.getD 0) } none left
            | none => readStops n { s with listed := s.listed ++ [v] } none left

/-- The stops that lists give, checked: they are ascending, and one alone is a distance. -/
def stopsOf (lists : List Octets) : Except TabFault TabStops := do
  let s ← lists.foldlM (fun s cs => Prod.fst <$> readStops (2 * cs.length + 1) s none cs)
    (⟨[], none⟩ : TabStops)
  if s.listed.contains 0 then throw .zero
  else if (List.zip s.listed (s.listed.drop 1)).any fun e => e.2 ≤ e.1 then throw .notAscending
  else match s.listed, s.distance with
    | [], none => return ⟨[], some (8, 0)⟩
    | [d], none => return ⟨[], some (d, 0)⟩
    | _, _ => return s

/-- The stops that options ask for, as lists or as digits. -/
def askedStops (c : Call) (a : Arguments) : Task TabStops := do
  let digits := (a.options.filter fun o => isAsciiDigit o.1 || o.1 == ',').map fun o => o.1 :: o.2
  let lists := a.values 't' ++ (if digits.isEmpty then [] else [digits.flatten])
  match stopsOf lists with
  | .ok s => return s
  | .error f => failWith c 1 f.message

/-- A line with blanks for tabulators; perhaps only for those in front. -/
def expandFrom (s : TabStops) (initial : Bool) : Nat → Bool → Octets → Octets
  | _, _, [] => []
  | column, expanding, c :: cs =>
      if c = '\t' && expanding then
        let stop := s.next column
        List.replicate (stop - column) ' ' ++ expandFrom s initial stop expanding cs
      else
        let column := if c = '\x08' then column - 1 else column + 1
        c :: expandFrom s initial column (expanding && (!initial || isBlank c)) cs

/-- The options for tabulators. -/
def expandRules : OptionRules :=
  ⟨"it:0::1::2::3::4::5::6::7::8::9::", [("tabs", 't'), ("initial", 'i')], true, 1⟩

/-- Writing lines with blanks for tabulators. -/
def expand : Tool := fun c => do
  let a ← arguments expandRules c
  let s ← askedStops c a
  let (parts, isWhole) ← readAll c a.operands
  write (parts.flatMap fun e =>
    (keptLines e.2).flatMap fun l => expandFrom s (a.has 'i') 0 true l)
  return if isWhole then 0 else 1

/-- A line in which blanks are being replaced by tabulators. -/
structure Shortening where
  /-- The column. -/
  column : Nat
  /-- The blanks that may still be replaced, the last first. -/
  pending : Octets
  /-- Whether a single blank stands right in front of a stop. -/
  isSingle : Bool
  /-- Whether the octet before was a blank. -/
  isBehindBlank : Bool
  /-- Whether blanks are still replaced. -/
  isReplacing : Bool

/-- The pending blanks as they are written: a single blank in front of a stop gives way to a tabulator
if there are others. -/
def Shortening.blanks (f : Shortening) : Octets :=
  match f.pending.reverse with
  | p :: q :: rest => if f.isSingle then '\t' :: q :: rest else p :: q :: rest
  | ps => ps

/-- A line with tabulators for blanks, perhaps only for those in front. -/
def unexpandFrom (s : TabStops) (all : Bool) (f : Shortening) : Octets → Octets
  | [] => f.blanks
  | c :: cs =>
      let stop := s.next f.column
      if !f.isReplacing then c :: unexpandFrom s all f cs
      else if isBlank c && !s.hasNext f.column then
        f.blanks ++ c :: unexpandFrom s all { f with pending := [], isReplacing := false } cs
      else if c = '\t' then
        let kept := if f.isSingle && !f.pending.isEmpty then ['\t'] else []
        kept ++ '\t' :: unexpandFrom s all ⟨stop, [], false, true, true⟩ cs
      else if c = ' ' then
        if f.isBehindBlank && f.column + 1 = stop then
          let kept := if f.isSingle then ['\t'] else []
          kept ++ '\t' :: unexpandFrom s all ⟨stop, [], false, true, true⟩ cs
        else
          unexpandFrom s all ⟨f.column + 1, ' ' :: f.pending, f.isSingle || f.column + 1 == stop,
            true, true⟩ cs
      else
        let column := if c = '\x08' then f.column - 1 else f.column + 1
        f.blanks ++ c :: unexpandFrom s all ⟨column, [], false, false, all⟩ cs

/-- Writing lines with tabulators for blanks. -/
def unexpand : Tool := fun c => do
  let a ← arguments ⟨",0123456789at:φ", [("tabs", 't'), ("all", 'a'), ("first-only", 'φ')], true,
    1⟩ c
  let s ← askedStops c a
  let all := !a.has 'φ' && a.options.any fun o => o.1 != ','
  let (parts, isWhole) ← readAll c a.operands
  write (parts.flatMap fun e => (keptLines e.2).flatMap fun l =>
    unexpandFrom s all ⟨0, [], false, true, true⟩ l)
  return if isWhole then 0 else 1

end Tool

end Script

end LineShell
