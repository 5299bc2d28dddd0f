import LineShell.Script.Regex
import LineShell.Script.Tool.Lines

/-!
# Editing lines

A tool that runs a list of instructions on each line of its input. An instruction has addresses, which
say to which lines it applies; the line at hand can be changed, written, kept and brought back.
-/

namespace LineShell

namespace Script

namespace Editing

/-! ### Instructions -/

/-- Which lines are meant. -/
inductive Address where
  /-- The line of a number. -/
  | line (n : Nat)
  /-- The last line. -/
  | last
  /-- Lines that a regular expression fits. -/
  | fitting (r : Regex)
  /-- Every so many lines from one on. -/
  | every (first step : Nat)

/-- A piece of what a fit is replaced by. -/
inductive Piece where
  /-- A text. -/
  | octets (cs : Octets)
  /-- What a group has fitted; the whole is number zero. -/
  | group (n : Nat)
  /-- The letters from here on: capitals (`U`), small ones (`L`), as they are (`E`); or only the
  next one (`u`, `l`). -/
  | letters (kind : Char)

/-- What an instruction does. -/
inductive Action where
  /-- The instructions up to the closing brace belong together. -/
  | opening
  /-- They end here. -/
  | closing
  /-- A place to go to. -/
  | label (name : Octets)
  /-- Going to a place, or to the end: always (`b`), after a replacement (`t`) or without one
  (`T`). -/
  | jump (kind : Char) (name : Octets)
  /-- Replacing what a regular expression fits, from a fit on, all of them or one; the line may be
  written then. -/
  | replace (r : Regex) (new : List Piece) (nth : Nat) (all writes : Bool)
  /-- Replacing octets by others. -/
  | translate (old new : Octets)
  /-- Writing a text before (`i`), behind (`a`) or in the place of the line (`c`). -/
  | insert (kind : Char) (text : Octets)
  /-- Leaving, with or without writing the line. -/
  | leave (writes : Bool) (code : Nat)
  /-- What a letter stands for. -/
  | simple (letter : Char)

/-- An instruction. -/
structure Instruction where
  /-- The first line, or all if there is none. -/
  first : Option Address
  /-- The last line of a stretch. -/
  last : Option Address
  /-- Whether it applies to the other lines. -/
  negated : Bool
  /-- What it does. -/
  action : Action

/-! ### Reading -/

/-- What is wrong with instructions, with how much is left behind the place of the fault. -/
abbrev Reading := Except (String × Nat)

/-- A text up to a mark, and the rest behind it; a backslash takes the mark its meaning. The number
bounds the steps. -/
def upTo (mark : Char) : Nat → Octets → Option (Octets × Octets)
  | 0, _ => none
  | _, [] => none
  | n + 1, c :: cs =>
      if c = mark then some ([], cs)
      else match c, cs with
        | '\\', d :: rest => (upTo mark n rest).map fun r =>
            if d = mark then (d :: r.1, r.2) else ('\\' :: d :: r.1, r.2)
        | c, cs => (upTo mark n cs).map fun r => (c :: r.1, r.2)

/-- An address, if there is one. -/
def address (style : Regex.Style) (cs : Octets) : Reading (Option Address × Octets) := do
  match cs with
  | '$' :: rest => return (some .last, rest)
  | '/' :: rest => match upTo '/' (rest.length + 1) rest with
    | none => throw ("unterminated address regex", 0)
    | some (text, rest) =>
        let (folded, rest) := match rest with
          | 'I' :: rest => (true, rest)
          | rest => (false, rest)
        match Regex.read { style with folded := folded } text with
        | .ok r => return (some (.fitting r), rest)
        | .error e => throw (e.message, rest.length)
  | cs =>
      let ds := cs.takeWhile isAsciiDigit
      if ds.isEmpty then return (none, cs)
      else match cs.drop ds.length with
        | '~' :: rest =>
            let es := rest.takeWhile isAsciiDigit
            return (some (.every (ofDigits ds) (ofDigits es)), rest.drop es.length)
        | rest => return (some (.line (ofDigits ds)), rest)

/-- The pieces of a replacement. The number bounds the steps. -/
def pieces : Nat → Octets → List Piece
  | 0, _ => []
  | _, [] => []
  | n + 1, '&' :: cs => .group 0 :: pieces n cs
  | n + 1, '\\' :: c :: cs =>
      let p : Piece := if isAsciiDigit c then .group (c.toNat - 48)
        else if "ULEul".toList.contains c then .letters c
        else if c = 'n' then .octets ['\n']
        else if c = 't' then .octets ['\t']
        else .octets [c]
      p :: pieces n cs
  | n + 1, c :: cs => .octets [c] :: pieces n cs

/-- The flags behind a replacement: whether all fits are replaced, whether the line is written,
whether capitals count as small letters, and from which fit on. -/
def flags : Octets → Reading (Bool × Bool × Bool × Nat × Octets)
  | 'g' :: cs => do
      let (_, p, i, n, rest) ← flags cs
      return (true, p, i, n, rest)
  | 'p' :: cs => do
      let (g, _, i, n, rest) ← flags cs
      return (g, true, i, n, rest)
  | c :: cs => do
      if c = 'i' || c = 'I' then
        let (g, p, _, n, rest) ← flags cs
        return (g, p, true, n, rest)
      else if isAsciiDigit c then
        let (g, p, i, n, rest) ← flags cs
        return (g, p, i, if n = 0 then c.toNat - 48 else (c.toNat - 48) * 10 + n, rest)
      else if c = ';' || c = '\n' || c = '\x7d' || c = ' ' || c = '#' then
        return (false, false, false, 0, c :: cs)
      else throw ("unknown option to `s'", cs.length)
  | [] => return (false, false, false, 0, [])

/-- The text of an insertion, and the rest. -/
def insertion (cs : Octets) : Octets × Octets :=
  let cs := cs.dropWhile isBlank
  let cs := match cs with
    | '\\' :: '\n' :: rest => rest
    | '\\' :: rest => rest.dropWhile isBlank
    | cs => cs
  let text := cs.takeWhile (· != '\n')
  (text ++ ['\n'], (cs.drop text.length).drop 1)

/-- Checking that nothing but an end stands behind an instruction. -/
def ended (cs : Octets) : Reading Octets :=
  match cs.dropWhile isBlank with
  | [] => .ok []
  | c :: rest =>
      if c = ';' || c = '\n' then .ok rest
      else if c = '\x7d' || c = '#' then .ok (c :: rest)
      else .error ("extra characters after command", rest.length)

/-- What an instruction with a letter does, and the rest. -/
def action (style : Regex.Style) (letter : Char) (cs : Octets) : Reading (Action × Octets) := do
  if letter = '\x7b' then return (.opening, cs)
  else if letter = '\x7d' then return (.closing, ← ended cs)
  else if letter = 's' then
    let mark := cs.headD '/'
    let cut := (upTo mark (cs.length + 1) (cs.drop 1)).bind fun (old, rest) =>
      (upTo mark (cs.length + 1) rest).map fun (new, rest) => (old, new, rest)
    match cut with
    | none => throw ("unterminated `s' command", 0)
    | some (old, new, rest) => do
        let (all, writes, folded, nth, rest) ← flags rest
        match Regex.read { style with folded := folded } old with
        | .error e => throw (e.message, rest.length)
        | .ok r => return (.replace r (pieces new.length new) nth all writes, ← ended rest)
  else if letter = 'y' then
    let mark := cs.headD '/'
    let cut := (upTo mark (cs.length + 1) (cs.drop 1)).bind fun (old, rest) =>
      (upTo mark (cs.length + 1) rest).map fun (new, rest) => (old, new, rest)
    match cut with
    | none => throw ("unterminated `y' command", 0)
    | some (old, new, rest) =>
        if old.length ≠ new.length then
          throw ("strings for `y' command are different lengths", rest.length)
        else return (.translate old new, ← ended rest)
  else if letter = 'a' || letter = 'i' || letter = 'c' then
    if (cs.dropWhile isBlank).isEmpty then throw ("expected \\ after `a', `c' or `i'", 0)
    else
      let (text, rest) := insertion cs
      return (.insert letter text, rest)
  else if letter = 'q' || letter = 'Q' then
    let cs := cs.dropWhile isBlank
    let ds := cs.takeWhile isAsciiDigit
    return (.leave (letter == 'q') (ofDigits ds % 256), ← ended (cs.drop ds.length))
  else if letter = 'b' || letter = 't' || letter = 'T' then
    let cs := cs.dropWhile isBlank
    let name := cs.takeWhile fun c => c != ';' && c != '\n' && c != '\x7d'
    return (.jump letter (name.reverse.dropWhile isBlank).reverse, ← ended (cs.drop name.length))
  else if letter = ':' then
    let cs := cs.dropWhile isBlank
    let name := cs.takeWhile fun c => c != ';' && c != '\n'
    if name.isEmpty then throw ("\":\" lacks a label", 0)
    else return (.label (name.reverse.dropWhile isBlank).reverse, (cs.drop name.length).drop 1)
  else if "pd=nNDPgGhHxlz".toList.contains letter then return (.simple letter, ← ended cs)
  else throw ("unknown command: `" ++ String.singleton letter ++ "'", cs.length)

/-- The instructions that a text writes. The number bounds them. -/
def instructions (style : Regex.Style) : Nat → Octets → Reading (List Instruction)
  | 0, _ => return []
  | n + 1, cs => do
      let cs := cs.dropWhile fun c => isSpace c || c == ';'
      match cs with
      | [] => return []
      | '#' :: rest => instructions style n (rest.dropWhile (· != '\n'))
      | cs =>
          let (first, rest) ← address style cs
          let rest := rest.dropWhile isBlank
          let (last, rest) ← match first, rest with
            | some _, ',' :: rest => do
                let (a, left) ← address style (rest.dropWhile isBlank)
                if a.isNone then throw ("unexpected `,'", rest.length) else pure (a, left)
            | none, ',' :: rest => throw ("unexpected `,'", rest.length)
            | _, rest => pure (none, rest)
          let rest := rest.dropWhile isBlank
          let negated := rest.head? == some '!'
          let rest := (rest.dropWhile (· == '!')).dropWhile isBlank
          match rest with
          | [] => throw ("missing command", 0)
          | letter :: rest => do
              let (act, rest) ← action style letter rest
              return ⟨first, last, negated, act⟩ :: (← instructions style n rest)

/-! ### Running -/

/-- What instructions work on. -/
structure Desk where
  /-- The line at hand. -/
  line : Octets
  /-- What is kept. -/
  kept : Octets
  /-- The number of the line. -/
  number : Nat
  /-- The lines that come. -/
  coming : List Octets
  /-- The instructions whose stretches have begun, with the lines at which they end if those are
  known. -/
  begun : List (Nat × Option Nat)
  /-- What is to be written behind the line. -/
  later : Octets
  /-- Whether something has been replaced in the line. -/
  isChanged : Bool
  /-- What has been written, the latest first. -/
  written : List Octets
  /-- The exit code, once it is settled. -/
  code : Option Nat

/-- Whether the line at hand is the last one. -/
def Desk.isLast (d : Desk) : Bool := d.coming.isEmpty

/-- Whether an address means the line at hand. -/
def Address.means (a : Address) (d : Desk) : Bool :=
  match a with
  | line n => d.number == n
  | last => d.isLast
  | fitting r => (r.search? [] d.line).isSome
  | every first step =>
      if step = 0 then d.number == first
      else first ≤ d.number && (d.number - first) % step == 0

/-- Whether an instruction, which has a number, applies to the line at hand. -/
def Instruction.applies (i : Instruction) (k : Nat) (d : Desk) : Bool × Desk :=
  let plain : Bool × Desk := match i.first, i.last with
    | none, _ => (true, d)
    | some a, none => (a.means d, d)
    | some a, some b => match d.begun.lookup k with
      | some stop =>
          let rest := d.begun.filter (·.1 != k)
          let passed := stop.any (· < d.number)
          let ends := match stop with
            | some n => decide (n ≤ d.number)
            | none => b.means d
          if passed then (a.means d, { d with begun := rest })
          else (true, if ends then { d with begun := rest } else d)
      | none =>
          if a.means d then match b with
            | .line n => if n ≤ d.number then (true, d)
                else (true, { d with begun := (k, some n) :: d.begun })
            | _ => (true, { d with begun := (k, none) :: d.begun })
          else (false, d)
  (plain.1 != i.negated, plain.2)

/-- Text with letters as they are wanted: from here on, and for the next one. -/
def recased (mode once : Char) (cs : Octets) : Octets :=
  let cs := match mode with
    | 'U' => cs.map Char.toUpper
    | 'L' => cs.map Char.toLower
    | _ => cs
  match once, cs with
  | 'u', c :: rest => c.toUpper :: rest
  | 'l', c :: rest => c.toLower :: rest
  | _, cs => cs

/-- What pieces make of a fit. -/
def fill (f : Regex.Found) : Char → Char → List Piece → Octets
  | _, _, [] => []
  | mode, once, .octets cs :: ps => recased mode once cs ++ fill f mode ' ' ps
  | mode, once, .group n :: ps =>
      let cs := if n = 0 then f.fitted else (f.groups.lookup n).getD []
      recased mode once cs ++ fill f mode (if cs.isEmpty then once else ' ') ps
  | mode, once, .letters k :: ps =>
      if k = 'u' || k = 'l' then fill f mode k ps else fill f k once ps

/-- A text with fits replaced, and whether there was one: the fit of a number, counted from one,
or all from there on. The number bounds the fits. -/
def replace (r : Regex) (new : List Piece) (all : Bool) :
    Nat → Nat → Octets → Octets → Octets × Bool
  | 0, _, _, cs => (cs, false)
  | n + 1, nth, before, cs => match r.search? before cs with
    | none => (cs, false)
    | some f =>
        let isWanted := nth ≤ 1
        let out := if isWanted then fill f ' ' ' ' new else f.fitted
        let done := before ++ f.before ++ f.fitted
        if isWanted && !all then (f.before ++ out ++ f.behind, true)
        else if f.fitted.isEmpty then match f.behind with
          | [] => (f.before ++ out, isWanted)
          | c :: rest =>
              let (more, found) := replace r new all n (nth - 1) (done ++ [c]) rest
              (f.before ++ out ++ c :: more, isWanted || found)
        else
          let (more, found) := replaceBehind r new all n (nth - 1) done f.behind
          (f.before ++ out ++ more, isWanted || found)
where
  /-- A text behind a fit, where an empty fit does not count. -/
  replaceBehind (r : Regex) (new : List Piece) (all : Bool) (n nth : Nat)
      (before cs : Octets) : Octets × Bool :=
    match r.search? before cs with
    | some f =>
        if f.fitted.isEmpty && f.before.isEmpty then match cs with
          | [] => ([], false)
          | c :: rest =>
              let (more, found) := replace r new all n nth (before ++ [c]) rest
              (c :: more, found)
        else replace r new all n nth before cs
    | none => (cs, false)

/-- The place of a label. -/
def placeOfLabel (is : List Instruction) (name : Octets) : Option Nat :=
  is.findIdx? fun i => match i.action with
    | .label n => n == name
    | _ => false

/-- The place behind the brace that closes one at a place. -/
def behindBrace (is : List Instruction) (k : Nat) : Nat :=
  let rec go (depth : Nat) : Nat → List Instruction → Nat
    | j, [] => j
    | j, i :: rest => match i.action with
      | .opening => go (depth + 1) (j + 1) rest
      | .closing => if depth ≤ 1 then j + 1 else go (depth - 1) (j + 1) rest
      | _ => go depth (j + 1) rest
  go 0 k (is.drop k)

/-- A desk with something written. -/
def Desk.write (d : Desk) (cs : Octets) : Desk := { d with written := cs :: d.written }

/-- A desk with what was to be written behind the line written. -/
def Desk.flush (d : Desk) : Desk :=
  if d.later.isEmpty then d else { d.write d.later with later := [] }

/-- What becomes of a line: the next instruction, the end of the instructions for it (written or
not), or the instructions again without reading a line. -/
inductive Course where
  /-- The instruction of a number. -/
  | next (k : Nat)
  /-- The end, after which the line is written unless that is not wanted. -/
  | done (writes : Bool)
  /-- The instructions again. -/
  | again

/-- What a letter does with the desk at an instruction. -/
def simple (letter : Char) (quiet : Bool) (k : Nat) (d : Desk) : Course × Desk :=
  let next := Course.next (k + 1)
  match letter with
  | 'p' => (next, d.write (d.line ++ ['\n']))
  | 'd' => (.done false, d)
  | '=' => (next, d.write (Numeral.digits d.number ++ ['\n']))
  | 'n' =>
      let d := if quiet then d else d.write (d.line ++ ['\n'])
      match d.coming with
      | [] => (.done false, { d with code := some 0 })
      | l :: ls => (next, { d.flush with line := l, number := d.number + 1, coming := ls })
  | 'N' => match d.coming with
    | [] => (.done true, { d with code := some 0 })
    | l :: ls => (next, { d.flush with
        line := d.line ++ '\n' :: l, number := d.number + 1, coming := ls })
  | 'D' =>
      if d.line.contains '\n' then
        (.again, { d with line := (d.line.dropWhile (· != '\n')).drop 1 })
      else (.done false, d)
  | 'P' => (next, d.write (d.line.takeWhile (· != '\n') ++ ['\n']))
  | 'g' => (next, { d with line := d.kept })
  | 'G' => (next, { d with line := d.line ++ '\n' :: d.kept })
  | 'h' => (next, { d with kept := d.line })
  | 'H' => (next, { d with kept := d.kept ++ '\n' :: d.line })
  | 'x' => (next, { d with line := d.kept, kept := d.line })
  | 'z' => (next, { d with line := [] })
  | _ => (next, d)

/-- What an instruction does with the desk. -/
def run (is : List Instruction) (quiet : Bool) (i : Instruction) (k : Nat) (d : Desk) :
    Course × Desk :=
  let next := Course.next (k + 1)
  match i.action with
  | .opening => (next, d)
  | .closing => (next, d)
  | .label _ => (next, d)
  | .jump kind name =>
      let jumps := kind == 'b' || (kind == 't' && d.isChanged) || (kind == 'T' && !d.isChanged)
      let d := if kind = 'b' then d else { d with isChanged := false }
      if !jumps then (next, d)
      else if name.isEmpty then (.done true, d)
      else (.next ((placeOfLabel is name).getD is.length), d)
  | .replace r new nth all writes =>
      let (cs, found) := replace r new all (d.line.length + 2) nth [] d.line
      if !found then (next, d)
      else
        let d := { d with line := cs, isChanged := true }
        (next, if writes then d.write (cs ++ ['\n']) else d)
  | .translate old new =>
      let f := fun c => ((old.idxOf? c).bind (new[·]?)).getD c
      (next, { d with line := d.line.map f })
  | .insert kind text => match kind with
    | 'a' => (next, { d with later := d.later ++ text })
    | 'i' => (next, d.write text)
    | _ => (.done false, if i.last.isNone || (d.begun.lookup k).isNone then d.write text else d)
  | .leave writes code => (.done writes, { d with code := some code })
  | .simple letter => simple letter quiet k d

/-- The instructions from one on, on the line at hand. The number bounds the steps. -/
def runFrom (is : List Instruction) (quiet : Bool) : Nat → Nat → Desk → Course × Desk
  | 0, _, d => (.done true, d)
  | n + 1, k, d => match is[k]? with
    | none => (.done true, d)
    | some i =>
        let (applies, d) := i.applies k d
        if !applies then
          match i.action with
          | .opening => runFrom is quiet n (behindBrace is k) d
          | _ => runFrom is quiet n (k + 1) d
        else match run is quiet i k d with
          | (.next j, d) => runFrom is quiet n j d
          | r => r

/-- How many steps are taken for a line at most. -/
def maxSteps : Nat := 100000

/-- All lines from the one at hand on. The number bounds them. -/
def runLines (is : List Instruction) (quiet : Bool) : Nat → Desk → Desk
  | 0, d => d
  | n + 1, d =>
      let (course, d) := runFrom is quiet maxSteps 0 d
      match course with
      | .again => runLines is quiet n d.flush
      | .done writes =>
          let d := if writes && !quiet then d.write (d.line ++ ['\n']) else d
          finish n d.flush
      | .next _ => finish n d.flush
where
  /-- The next line, if there is one. -/
  finish (n : Nat) (d : Desk) : Desk :=
    match d.code, d.coming with
    | some _, _ => d
    | none, [] => d
    | none, l :: ls =>
        runLines is quiet n
          { d with line := l, number := d.number + 1, coming := ls, isChanged := false }

/-- What instructions make of a text, and the exit code. -/
def edit (is : List Instruction) (quiet : Bool) (cs : Octets) : Octets × Nat :=
  match linesOf cs with
  | [] => ([], 0)
  | l :: ls =>
      let d := runLines is quiet (cs.length + 10) ⟨l, [], 1, ls, [], [], false, [], none⟩
      let out := d.written.reverse.flatten
      let out := if cs.getLast? = some '\n' || out.getLast? != some '\n' then out else out.dropLast
      (out, d.code.getD 0)

end Editing

namespace Tool

/-- Editing the lines of files. -/
def sed : Tool := fun c => do
  let a ← arguments ⟨"bsnrzuEe:f:l:i::Vsδπσφ", [("binary", 'b'), ("regexp-extended", 'r'),
    ("debug", 'δ'), ("expression", 'e'), ("file", 'f'), ("in-place", 'i'), ("line-length", 'l'),
    ("null-data", 'z'), ("zero-terminated", 'z'), ("quiet", 'n'), ("posix", 'π'), ("silent", 'n'),
    ("sandbox", 'σ'), ("separate", 's'), ("unbuffered", 'u'), ("version", versionLetter),
    ("help", manualLetter), ("follow-symlinks", 'φ')], true, 1⟩ c
  let given := (a.options.filter (·.1 == 'e')).map Prod.snd
  let (texts, names) ← if !given.isEmpty then pure (given, a.operands)
    else match a.operands with
      | p :: names => pure ([p], names)
      | [] => do
          complain (octetsOf "Usage: " ++ c.name ++
            octetsOf " [OPTION]... \x7bscript-only-if-no-other-script\x7d [input-file]...")
          throw 1
  let style : Regex.Style := ⟨a.has 'E' || a.has 'r', false, true, true⟩
  let text := ['\n'].intercalate texts
  match Editing.instructions style (text.length + 1) text with
  | .error (message, left) =>
      failWith c 1 (octetsOf "-e expression #1, char " ++ Numeral.digits (text.length - left) ++
        octetsOf ": " ++ octetsOf message)
  | .ok is => do
      let missing := is.findSome? fun i => match i.action with
        | .jump _ name =>
            if name.isEmpty || (Editing.placeOfLabel is name).isSome then none else some name
        | _ => none
      match missing with
      | some name =>
          failWith c 1 (octetsOf "-e expression #1, char " ++ Numeral.digits text.length ++
            octetsOf ": can't find label for jump to `" ++ name ++ ['\''])
      | none => do
          let parts ← (sourcesOf names).mapM fun n => do
            match ← readSource n with
            | .ok cs => return some (n, cs)
            | .error e => do
                say c (if e = "Is a directory" then
                    octetsOf "couldn't edit " ++ n ++ octetsOf ": not a regular file"
                  else octetsOf "can't read " ++ n ++ octetsOf ": " ++ octetsOf e)
                return none
          let isWhole := parts.all Option.isSome
          let quiet := a.has 'n'
          if a.has 'i' then do
            (parts.filterMap id).forM fun (n, cs) => do
              let _ ← writeFile n (Editing.edit is quiet cs).1
            return if isWhole then 0 else 4
          else do
            let (out, code) := Editing.edit is quiet ((parts.filterMap id).flatMap Prod.snd)
            write out
            return if code ≠ 0 then code else if isWhole then 0 else 2

end Tool

end Script

end LineShell
