import LineShell.Script.Tool.Lines
import LineShell.Script.Tool.Quantity

/-!
# Common and repeated lines

Tools for lines that are in order: what two texts have in common, and which lines of a text are
repeated.

Main statement: `flatten_runsBy`, by which runs of lines hold all lines in their order.
-/

namespace LineShell

namespace Script

namespace Tool

/-! ### Common lines -/

/-- Where a line has been found. -/
inductive Origin where
  /-- Only in the first text. -/
  | first
  /-- Only in the second text. -/
  | second
  /-- In both texts. -/
  | both
deriving DecidableEq, Repr

/-- How closely the order of lines is looked at. -/
inductive OrderCheck where
  /-- Not at all. -/
  | never
  /-- Once a line has been found in one text only. -/
  | whenUnpaired
  /-- Always, and a line out of order ends everything. -/
  | always
deriving DecidableEq, Repr

/-- One of two texts that are compared. -/
structure Partner where
  /-- The lines that have been compared, the last first. -/
  passed : List Octets
  /-- The other lines. -/
  left : List Octets

namespace Partner

/-- The text with one more line compared. -/
def next (p : Partner) : Partner := ⟨p.left.take 1 ++ p.passed, p.left.drop 1⟩

/-- Whether the line that has been come to stands behind a greater one; at the end of the text that is
asked of the last line once more. -/
def isDisordered (p : Partner) : Bool :=
  match p.left, p.passed with
  | b :: _, a :: _ => compareOctets a b == .gt
  | [], b :: a :: _ => compareOctets a b == .gt
  | _, _ => false

end Partner

/-- What a comparison of two texts gives. -/
structure Common where
  /-- The lines with their origins. -/
  lines : List (Origin × Octets)
  /-- The texts that are out of order. -/
  disordered : List Nat

/-- The comparison of what is left of two texts, given whether a line has been found in one text only
and the texts that are known to be out of order. The number bounds the lines. -/
def compareTexts (check : OrderCheck) : Nat → Bool → List Nat → Partner → Partner → Common
  | 0, _, faults, _, _ => ⟨[], faults⟩
  | n + 1, unpaired, faults, p, q =>
      let go (o : Origin) (l : Octets) (p' q' : Partner) : Common :=
        let unpaired := unpaired || o != .both
        let isChecked := check == .always || (check == .whenUnpaired && unpaired)
        let fault (k : Nat) (isMoved : Bool) (r : Partner) : List Nat :=
          if isChecked && isMoved && !faults.contains k && r.isDisordered then [k] else []
        let found := fault 1 (o != .second) p' ++ fault 2 (o != .first) q'
        if check = .always && !found.isEmpty then ⟨[(o, l)], found.take 1⟩
        else
          let r := compareTexts check n unpaired (faults ++ found) p' q'
          { r with lines := (o, l) :: r.lines }
      match p.left, q.left with
      | [], [] => ⟨[], faults⟩
      | a :: _, [] => go .first a p.next q
      | [], b :: _ => go .second b p q.next
      | a :: _, b :: _ => match compareOctets a b with
        | .lt => go .first a p.next q
        | .gt => go .second b p q.next
        | .eq => go .both b p.next q.next

/-- The columns of a comparison. -/
structure CommonColumns where
  /-- Whether lines of the first text are shown. -/
  first : Bool
  /-- Whether lines of the second text are shown. -/
  second : Bool
  /-- Whether lines of both texts are shown. -/
  both : Bool
  /-- What is written in front of a line for each column to the left. -/
  mark : Octets

/-- A line in its column, if the column is shown. -/
def CommonColumns.write (k : CommonColumns) : Origin × Octets → Option Octets
  | (.first, l) => if k.first then some l else none
  | (.second, l) => if k.second then some ((if k.first then k.mark else []) ++ l) else none
  | (.both, l) =>
      if k.both then
        some ((if k.first then k.mark else []) ++ (if k.second then k.mark else []) ++ l)
      else none

/-- The options for common lines. -/
def commRules : OptionRules :=
  ⟨"123zχνδ:τ", [("check-order", 'χ'), ("nocheck-order", 'ν'), ("output-delimiter", 'δ'),
    ("total", 'τ'), ("zero-terminated", 'z')], true, 1⟩

/-- Telling which lines two files have in common. -/
def comm : Tool := fun c => do
  let a ← arguments commRules c
  let marks := (a.values 'δ').map fun v => if v.isEmpty then ['\x00'] else v
  if marks.any (marks.head? != some ·) then
    failWith c 1 (octetsOf "multiple output delimiters specified")
  else match a.operands with
    | [] => failUsage c 1 (octetsOf "missing operand")
    | [n] => failUsage c 1 (octetsOf "missing operand after " ++
        quoteText (c.args.getLast?.getD n))
    | _ :: _ :: extra :: _ => failUsage c 1 (octetsOf "extra operand " ++ quoteText extra)
    | [n1, n2] => do
        let m := lineMark a
        let read (n : Octets) : Task (List Octets) := do
          match ← readSource n with
          | .ok cs => return piecesOf m cs
          | .error e => failWith c 1 (quoteIfNeeded n ++ octetsOf ": " ++ octetsOf e)
        let p ← read n1
        let q ← read n2
        let check : OrderCheck := match a.last? "χν" with
          | some ('χ', _) => .always
          | some _ => .never
          | none => .whenUnpaired
        let k : CommonColumns :=
          ⟨!a.has '1', !a.has '2', !a.has '3', marks.headD ['\t']⟩
        let r := compareTexts check (p.length + q.length) false [] ⟨[], p⟩ ⟨[], q⟩
        write (unpieces m (r.lines.filterMap k.write))
        r.disordered.forM fun n => say c (octetsOf s!"file {n} is not in sorted order")
        if check = .always && !r.disordered.isEmpty then throw 1
        else do
          if a.has 'τ' then
            let count (o : Origin) : Octets :=
              Numeral.digits (r.lines.filter fun l => l.1 == o).length
            write (k.mark.intercalate [count .first, count .second, count .both,
              octetsOf "total"] ++ [m])
          if r.disordered.isEmpty then return 0
          else failWith c 1 (octetsOf "input is not in sorted order")

/-! ### Repeated lines -/

/-- Runs of lines whose keys are alike. -/
def runsBy (key : Octets → Octets) : List Octets → List (List Octets)
  | [] => []
  | l :: ls => match runsBy key ls with
    | (m :: r) :: rs => if key l = key m then (l :: m :: r) :: rs else [l] :: (m :: r) :: rs
    | rs => [l] :: rs

/-- Runs of lines hold all lines in their order. -/
theorem flatten_runsBy (key : Octets → Octets) (ls : List Octets) :
    (runsBy key ls).flatten = ls := by
  induction ls with
  | nil => rfl
  | cons l ls ih =>
    rw [runsBy]
    split
    · next m r rs h =>
      rw [h] at ih
      split <;> simp_all
    · simp [ih]

/-- A line without some fields in front. -/
def dropFields : Nat → Octets → Octets
  | 0, l => l
  | n + 1, l =>
      if l.isEmpty then []
      else
        let isMark (c : Char) : Bool := isBlank c || c == '\n'
        dropFields n ((l.dropWhile isMark).dropWhile fun c => !isMark c)

/-- Where an empty line stands beside a run of lines. -/
inductive Gap where
  /-- In front of each run. -/
  | before
  /-- Behind each run. -/
  | behind
  /-- Between runs. -/
  | between
  /-- In front of each run and behind the last. -/
  | around
  /-- Nowhere. -/
  | none
deriving DecidableEq, Repr

/-- Runs with the empty lines beside them. -/
def Gap.spread (g : Gap) (runs : List (List Octets)) : List Octets :=
  match g with
  | .before => runs.flatMap ([] :: ·)
  | .behind => runs.flatMap (· ++ [[]])
  | .between => [[]].intercalate runs
  | .around => runs.flatMap ([] :: ·) ++ (if runs.isEmpty then [] else [[]])
  | .none => runs.flatten

/-- What is asked for of repeated lines. -/
structure UniqRules where
  /-- Whether lines are written that are not repeated. -/
  singles : Bool
  /-- Whether one line of each run is written. -/
  leaders : Bool
  /-- Whether the other lines of each run are written, with what stands between the runs. -/
  others : Option Gap
  /-- Whether all lines are written, with what stands between the runs. -/
  groups : Option Gap
  /-- Whether the length of each run stands in front. -/
  counts : Bool

/-- The lines that are written for runs. -/
def UniqRules.arrange (u : UniqRules) (runs : List (List Octets)) : List Octets :=
  match u.groups, u.others with
  | some g, _ => g.spread runs
  | none, some g =>
      let repeated := runs.filter (·.length != 1)
      g.spread (repeated.map fun r => if u.leaders then r else r.dropLast)
  | none, none =>
      let shown := runs.filter fun r => if r.length == 1 then u.singles else u.leaders
      shown.map fun r =>
        let l := r.headD []
        if u.counts then aligned 7 r.length ++ ' ' :: l else l

/-- The options for repeated lines: a number in the old notation is one as well. -/
def uniqRules : OptionRules :=
  ⟨"0123456789Dcdf:is:uw:zα::γ::", [("count", 'c'), ("repeated", 'd'), ("all-repeated", 'α'),
    ("group", 'γ'), ("ignore-case", 'i'), ("unique", 'u'), ("skip-fields", 'f'),
    ("skip-chars", 's'), ("check-chars", 'w'), ("zero-terminated", 'z')], true, 1⟩

/-- The number of fields to leave out that options ask for, in either notation. -/
def askedFields (options : List (Char × Nat)) : Nat :=
  (options.foldl (fun (n, isNew) (k, v) =>
    if k = 'f' then (v, true)
    else if isAsciiDigit k then (if isNew then (digitOf k, false) else (n * 10 + digitOf k, false))
    else (n, isNew)) (0, false)).1
where
  /-- The number of a digit. -/
  digitOf (k : Char) : Nat := k.toNat - '0'.toNat

/-- The operands that are files; a number behind a plus sign is the number of octets to leave out. -/
def partOperands (ops : List Octets) : List Nat × List Octets :=
  ops.foldr (fun o (ns, fs) => match o with
    | '+' :: ds => match number? ds with
      | some n => (n :: ns, fs)
      | none => (ns, o :: fs)
    | _ => (ns, o :: fs)) ([], [])

/-- Leaving out lines that repeat the line before. -/
def uniq : Tool := fun c => do
  let a ← arguments uniqRules c
  let size (what : String) (v : Octets) : Task Nat :=
    match readQuantity "" v with
    | .exact n => return n
    | .tooLarge => return maxWord
    | .invalid => failWith c 1 (v ++ octetsOf (": invalid number of " ++ what))
  let options ← a.options.mapM fun (k, v) => do
    match k with
    | 'f' => return (k, ← size "fields to skip" v)
    | 's' => return (k, ← size "bytes to skip" v)
    | 'w' => return (k, ← size "bytes to compare" v)
    | _ => return (k, 0)
  let value? (k : Char) : Option Nat := ((options.filter (·.1 == k)).map Prod.snd).getLast?
  let gapOf (option : String) (words : List (String × Gap)) (default : Gap) (v : Octets) :
      Task Gap := if v.isEmpty then return default else wordOf c option words v
  let others ← (a.last? "Dα").mapM fun o => gapOf "--all-repeated"
    [("none", .none), ("prepend", .before), ("separate", .between)] .none o.2
  let groups ← (a.value? 'γ').mapM fun v => gapOf "--group"
    [("prepend", .before), ("append", .behind), ("separate", .between), ("both", .around)]
    .between v
  let (skips, files) := partOperands a.operands
  match files.drop 2 with
  | extra :: _ => failUsage c 1 (octetsOf "extra operand " ++ quoteText extra)
  | [] => do
      if groups.isSome && a.hasAny "cdDαu" then
        failUsage c 1 (octetsOf "--group is mutually exclusive with -c/-d/-D/-u")
      else if a.has 'c' && others.isSome then
        failUsage c 1 (octetsOf "printing all duplicated lines and repeat counts is meaningless")
      else do
        let m := lineMark a
        let name := files.headD ['-']
        let output := ((files.drop 1).head?).filter (· != ['-'])
        let fail (n : Octets) (e : String) : Task Nat :=
          failWith c 1 (quoteIfNeeded n ++ octetsOf ": " ++ octetsOf e)
        let text ← readSource name
        match text, output with
        | .error "Is a directory", none => failWith c 1 (octetsOf "error reading " ++
            quoteAlways name ++ octetsOf ": Is a directory")
        | .error e, _ => fail name e
        | .ok cs, output => do
            let key (l : Octets) : Octets :=
              let l := (dropFields (askedFields options) l).drop
                ((value? 's').getD (skips.getLast?.getD 0))
              let l := ((value? 'w').map (l.take ·)).getD l
              if a.has 'i' then l.map Char.toUpper else l
            let u : UniqRules :=
              ⟨!a.hasAny "dDα", !a.has 'u', others, groups, a.has 'c'⟩
            let out := unpieces m (u.arrange (runsBy key (piecesOf m cs)))
            match output with
            | none => do
                write out
                return 0
            | some p => match ← writeFile p out with
              | .ok _ => return 0
              | .error e => fail p e

end Tool

end Script

end LineShell
