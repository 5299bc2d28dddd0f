import LineShell.Script.Sorting.Explain
import LineShell.Script.Tool.Lines
import LineShell.Script.Tool.Print

/-!
# Sorting

A tool that puts lines in order or tells whether they are in order.
-/

namespace LineShell

namespace Script

namespace Tool

/-! ### Sorting: what is asked for -/

/-- The options for sorting. -/
def sortRules : OptionRules :=
  ⟨"bcCdfghik:mMno:rRsS:t:T:uVy:zχ::π:δφ:ρ:σ:β:ν:",
    [("ignore-leading-blanks", 'b'), ("check", 'χ'), ("compress-program", 'π'), ("debug", 'δ'),
      ("dictionary-order", 'd'), ("ignore-case", 'f'), ("files0-from", 'φ'),
      ("general-numeric-sort", 'g'), ("ignore-nonprinting", 'i'), ("key", 'k'), ("merge", 'm'),
      ("month-sort", 'M'), ("numeric-sort", 'n'), ("human-numeric-sort", 'h'),
      ("version-sort", 'V'), ("random-sort", 'R'), ("random-source", 'ρ'), ("sort", 'σ'),
      ("output", 'o'), ("reverse", 'r'), ("stable", 's'), ("batch-size", 'β'),
      ("buffer-size", 'S'), ("field-separator", 't'), ("temporary-directory", 'T'),
      ("unique", 'u'), ("zero-terminated", 'z'), ("parallel", 'ν')], true, 2⟩

/-- What is asked for in a call for sorting. -/
structure SortRequest where
  /-- The keys with which the lines are compared, the last first. -/
  keys : List Sorting.Key
  /-- The style for keys that have none of their own. -/
  style : Sorting.Style
  /-- The mark between fields, if there is one. -/
  mark : Option Char
  /-- Whether the lines are only looked at (`some false`), and whether that is done without a word
  (`some true`). -/
  check : Option Bool
  /-- Whether the lines of each file are in order already. -/
  merges : Bool
  /-- Whether lines with equal keys keep their order. -/
  isStable : Bool
  /-- Whether equal lines are written once. -/
  isUnique : Bool
  /-- Whether lines end with the null character. -/
  isZeroEnded : Bool
  /-- Whether it is shown how the lines have been compared. -/
  explains : Bool
  /-- Where the lines are written to. -/
  output : Option Octets
  /-- The file that lists the names of the files. -/
  listing : Option Octets
  /-- Options of which at most one value may be given, with their values. -/
  settled : List (Char × Octets)
  /-- The files, the last first. -/
  files : List Octets

namespace SortRequest

/-- What is asked for without any argument. -/
def start : SortRequest :=
  ⟨[], .plain, none, none, false, false, false, false, false, none, none, [], []⟩

/-- The words for what lines are compared by. -/
def kinds : List (String × Char) :=
  [("general-numeric", 'g'), ("human-numeric", 'h'), ("month", 'M'), ("numeric", 'n'),
    ("random", 'R'), ("version", 'V')]

/-- The words for how lines are looked at. -/
def checks : List (String × Bool) :=
  [("quiet", true), ("silent", true), ("diagnose-first", false)]

/-- Refusing options that do not go together. -/
def failTogether {α : Type} (c : Call) (letters : Octets) : Task α :=
  failWith c 2 (octetsOf "options '-" ++ letters ++ octetsOf "' are incompatible")

/-- A request to look at lines only. -/
def checking (r : SortRequest) (c : Call) (quiet : Bool) : Task SortRequest :=
  if r.check.any (· != quiet) then failTogether c ['c', 'C']
  else return { r with check := some quiet }

/-- A request with the value of an option that must not have another value. -/
def settling (r : SortRequest) (c : Call) (letter : Char) (value : Octets) (what : String) :
    Task SortRequest :=
  if r.settled.any fun e => e.1 == letter && e.2 != value then
    failWith c 2 (octetsOf s!"multiple {what} specified")
  else return { r with settled := (letter, value) :: r.settled }

/-- A request with a mark between fields. -/
def withMark (r : SortRequest) (c : Call) (value : Octets) : Task SortRequest := do
  let m ← match value with
    | [] => failWith c 2 (octetsOf "empty tab")
    | [m] => pure m
    | ['\\', '0'] => pure '\x00'
    | _ => failWith c 2 (octetsOf "multi-character tab " ++ quoteText value)
  if r.mark.any (· != m) then failWith c 2 (octetsOf "incompatible tabs")
  else return { r with mark := some m }

/-- A key, or what is wrong with it. -/
def keyOf (c : Call) (k : Except Sorting.KeyFault Sorting.Key) : Task Sorting.Key :=
  match k with
  | .ok k => pure k
  | .error f => failWith c 2 f.message

/-- The letters behind a size for the memory. -/
def sizeLetters : List Char := "%bkKMGTPEZYRQ".toList

/-- Checking a number that has no effect here: how many files, threads or octets are to be used. -/
def checkNumber (c : Call) (letter : Char) (value : Octets) : Task Unit := do
  let name := octetsOf (if letter = 'β' then "--batch-size" else if letter = 'ν' then "--parallel"
    else "-S")
  let invalid := octetsOf "invalid " ++ name ++ octetsOf " argument " ++ quoteText value
  match Sorting.countAt? value with
  | none => failWith c 2 invalid
  | some (n, rest) =>
      if letter = 'S' && rest.length ≤ 1 && rest.all sizeLetters.contains then return ()
      else if !rest.isEmpty then
        failWith c 2 (octetsOf "invalid suffix in " ++ name ++ octetsOf " argument " ++
          quoteText value)
      else if letter = 'ν' && n = 0 then
        failWith c 2 (octetsOf "number in parallel must be nonzero")
      else if letter = 'β' && n < 2 then do
        say c invalid
        failWith c 2 (octetsOf "minimum --batch-size argument is '2'")
      else return ()

/-- A request with an option more. -/
def withOption (c : Call) (r : SortRequest) (o : Char × Octets) : Task SortRequest := do
  let (letter, value) := o
  if Sorting.Style.allLetters.contains letter then
    return { r with style := r.style.withLetter true true letter }
  else match letter with
    | 'c' => r.checking c false
    | 'C' => r.checking c true
    | 'χ' =>
        if value.isEmpty then r.checking c false
        else do r.checking c (← wordOf c "--check" checks value)
    | 'σ' => do
        let k ← wordOf c "--sort" kinds value
        return { r with style := r.style.withLetter true true k }
    | 'k' => do return { r with keys := (← keyOf c (Sorting.readKey value)) :: r.keys }
    | 't' => r.withMark c value
    | 'o' => do
        return { (← r.settling c 'o' value "output files") with output := some value }
    | 'ρ' => r.settling c 'ρ' value "random sources"
    | 'π' => r.settling c 'π' value "compress programs"
    | 'φ' => return { r with listing := some value }
    | 'm' => return { r with merges := true }
    | 's' => return { r with isStable := true }
    | 'u' => return { r with isUnique := true }
    | 'z' => return { r with isZeroEnded := true }
    | 'δ' => return { r with explains := true }
    | letter => do
        if "βνS".toList.contains letter then checkNumber c letter value
        return r

/-- Whether an argument gives the end of a key in the old notation. -/
def isOldFinish : Octets → Bool
  | '-' :: d :: _ => isAsciiDigit d
  | _ => false

/-- A request with all that arguments ask for. A key in the old notation stands among the files, and
its end in the argument behind it. -/
def read (c : Call) (r : SortRequest) : List Octets → Task SortRequest
  | [] => return r
  | a :: rest => match classify sortRules rest a with
    | .mark => return { r with files := rest.reverse ++ r.files }
    | .options (.error f) => failUsage c 2 f.message
    | .options (.ok (os, took)) => do
        if os.any fun o => o.1 == manualLetter || o.1 == versionLetter then throw 0
        read c (← os.foldlM (withOption c) r) (rest.drop took.toNat)
    | .operand =>
        let key := if a.head? = some '+' then Sorting.readOldStart? (a.drop 1) else none
        match key, rest with
        | none, rest => read c { r with files := a :: r.files } rest
        | some k, [] => read c { r with keys := k :: r.keys } []
        | some k, b :: others => do
            if isOldFinish b then
              let k ← keyOf c (Sorting.readOldFinish k b)
              read c { r with keys := k :: r.keys } others
            else read c { r with keys := k :: r.keys } (b :: others)
termination_by args => args.length
decreasing_by
  all_goals simp only [List.length_drop, List.length_cons, List.length_nil]
  all_goals omega

/-- The order that is asked for. Keys without a style of their own have that for all keys; without keys
the line is one if there is such a style. -/
def intention (r : SortRequest) : Sorting.Intention :=
  let keys := r.keys.reverse.map fun k =>
    if k.style.isGiven then k else { k with style := r.style }
  let isLineOnly := keys.isEmpty && r.style.isSpecial
  let keys := if isLineOnly then [Sorting.Key.line r.style] else keys
  ⟨⟨keys, r.mark, r.isStable || r.isUnique, r.style.has 'r'⟩, r.style, isLineOnly⟩

/-- The end of a line. -/
def lineEnd (r : SortRequest) : Char := if r.isZeroEnded then '\x00' else '\n'

/-- The lines of a text. -/
def linesIn (r : SortRequest) (cs : Octets) : List Octets :=
  let ls := cs.splitOn r.lineEnd
  if ls.getLast? = some [] then ls.dropLast else ls

end SortRequest

/-! ### Sorting: the tool -/

/-- The names of the files that a file lists, each ended by the null character. -/
def listedFiles (c : Call) (r : SortRequest) (listing : Octets) : Task (List Octets) := do
  match r.files.getLast? with
  | some name => do
      say c (octetsOf "extra operand " ++ quoteAlways name)
      complain (octetsOf "file operands cannot be combined with --files0-from")
      pointToManual c
      throw 2
  | none => match ← readSource listing with
    | .error e =>
        if e = "Is a directory" then
          failWith c 2 (octetsOf "cannot read file names from " ++ quoteAlways listing)
        else
          failWith c 2 (octetsOf "open failed: " ++ quoteIfNeeded listing ++ octetsOf ": " ++
            octetsOf e)
    | .ok cs => do
        let names := cs.splitOn '\x00'
        let names := if names.getLast? = some [] then names.dropLast else names
        if names.isEmpty then failWith c 2 (octetsOf "no input from " ++ quoteAlways listing)
        else match names.findIdx? fun n : Octets => n = ['-'] || n.isEmpty with
          | none => return names
          | some i =>
              if names[i]? = some ['-'] then
                failWith c 2 (octetsOf "when reading file names from stdin, no file name of '-' allowed")
              else
                failWith c 2 (quoteIfNeeded listing ++ octetsOf s!":{i + 1}: invalid zero-length file name")

/-- Refusing files that cannot be read. -/
def checkInputs (c : Call) (names : List Octets) : Task Unit :=
  names.forM fun n => do
    if n ≠ ['-'] then match ← node n with
      | .ok _ => return ()
      | .error e => failWith c 2 (octetsOf "cannot read: " ++ quoteIfNeeded n ++ octetsOf ": " ++
          octetsOf e)

/-- Refusing a file that cannot be written; if there is none it comes about. -/
def checkOutput (c : Call) (name : Octets) : Task Unit := do
  let result ← match ← node name with
    | .ok n => pure (if isDirectoryNode n then Except.error "Is a directory" else .ok ())
    | .error _ => writeFile name []
  match result with
  | .ok _ => return ()
  | .error e => failWith c 2 (octetsOf "open failed: " ++ quoteIfNeeded name ++ octetsOf ": " ++
      octetsOf e)

/-- The texts of files; the first that cannot be read ends the call. -/
def sortedTexts (c : Call) (names : List Octets) : Task (List Octets) :=
  names.mapM fun n => do
    match ← readSource n with
    | .ok cs => return cs
    | .error e => failWith c 2 (octetsOf (if e = "Is a directory" then "read failed: "
        else "open failed: ") ++ quoteIfNeeded n ++ octetsOf ": " ++ octetsOf e)

/-- Whether the lines of a file are in order; the first that is not is named. -/
def checkSorted (c : Call) (r : SortRequest) (quiet : Bool) (name : Octets) : Task Nat := do
  match ← sortedTexts c [name] with
  | [] => return 0
  | cs :: _ => match Sorting.disorder? r.intention.order r.isUnique 1 (r.linesIn cs) with
    | none => return 0
    | some (n, l) => do
        if !quiet then
          writeTo 2 (c.name ++ octetsOf ": " ++ name ++ octetsOf s!":{n}: disorder: " ++ l ++
            [r.lineEnd])
        return 1

/-- The lines of texts as they are asked for. -/
def arranged (r : SortRequest) (texts : List Octets) : List Octets :=
  let o := r.intention.order
  let ls := texts.map r.linesIn
  let ls := if r.merges then Sorting.mergeLines o ls else Sorting.sortLines o ls.flatten
  if r.isUnique then Sorting.dropRepeated o ls else ls

/-- Sorting the lines of files. -/
def sort : Tool := fun c => do
  let r ← SortRequest.start.read c c.args
  let names ← match r.listing with
    | some listing => listedFiles c r listing
    | none => pure r.files.reverse
  let i := r.intention
  match i.order.keys.find? fun k => !k.style.isConsistent with
  | some k => SortRequest.failTogether c k.style.kind.text
  | none => do
      let mode := r.check.map fun quiet => if quiet then 'C' else 'c'
      if r.explains then
        match mode, r.output with
        | some letter, _ => SortRequest.failTogether c (letter :: octetsOf " --debug")
        | none, some _ => SortRequest.failTogether c (octetsOf "o --debug")
        | none, none => i.remarks.forM (say c)
      match mode, names.drop 1 with
      | some letter, extra :: _ => failWith c 2 (octetsOf "extra operand " ++ quoteAlways extra ++
          octetsOf " not allowed with -" ++ [letter])
      | some letter, [] =>
          if r.output.isSome then SortRequest.failTogether c [letter, 'o']
          else checkSorted c r (letter == 'C') (names.headD ['-'])
      | none, _ => do
          let names := sourcesOf names
          checkInputs c names
          r.output.forM (checkOutput c)
          let ls := arranged r (← sortedTexts c names)
          let text := if r.explains then ls.flatMap (Sorting.explainLine i.order)
            else ls.flatMap (· ++ [r.lineEnd])
          match r.output with
          | none => write text
          | some name => do
              let _ ← writeFile name text
          return 0

end Tool

end Script

end LineShell
