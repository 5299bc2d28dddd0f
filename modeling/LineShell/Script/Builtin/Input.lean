import LineShell.Script.Builtin.Variables

/-!
# Commands that read

Reading a line into variables, reading lines into a list, and reading the options of arguments.

Main statement: `takeLine_length`, by which no more octets are taken than there are.
-/

namespace LineShell

namespace Script

namespace Builtin

/-! ### Lines -/

/-- How a line is read. -/
structure LineRules where
  /-- The octet behind the line; none if only the number of octets ends it. -/
  mark : Option Char
  /-- How many octets there may be. -/
  limit : Option Nat
  /-- Whether a backslash takes the meaning from the octet behind it. -/
  escapes : Bool

/-- A line that has been read. -/
structure LineRead where
  /-- Its octets; those that have no meaning are literal. -/
  glyphs : List Glyph
  /-- How many octets have been taken. -/
  taken : Nat
  /-- Whether the line has come to its end. -/
  isComplete : Bool

/-- A line with more in front. -/
def LineRead.after (gs : List Glyph) (n : Nat) (l : LineRead) : LineRead :=
  { l with glyphs := gs ++ l.glyphs, taken := n + l.taken }

/-- The line in front of a text, given how many octets it has already. -/
def takeLine (rules : LineRules) : Nat → Octets → LineRead
  | _, [] => ⟨[], 0, false⟩
  | n, c :: cs =>
      if some c = rules.mark then ⟨[], 1, true⟩
      else if rules.limit.any (· ≤ n) then ⟨[], 0, true⟩
      else match c, cs with
        | '\\', d :: rest =>
            if rules.escapes then
              if d = '\n' then (takeLine rules n rest).after [] 2
              else (takeLine rules (n + 1) rest).after [⟨d, true⟩] 2
            else (takeLine rules (n + 1) (d :: rest)).after [⟨'\\', false⟩] 1
        | '\\', [] =>
            if rules.escapes then ⟨[], 1, false⟩ else ⟨[⟨'\\', false⟩], 1, false⟩
        | '\x00', rest => (takeLine rules n rest).after [] 1
        | c, rest => (takeLine rules (n + 1) rest).after [⟨c, false⟩] 1

/-- No more octets are taken than there are. -/
theorem takeLine_length (rules : LineRules) (n : Nat) (cs : Octets) :
    (takeLine rules n cs).taken ≤ cs.length := by
  fun_induction takeLine rules n cs <;> simp_all [LineRead.after] <;> omega

/-! ### Fields of a line -/

/-- Whether a glyph is a separator. -/
def isSeparator (separators : Octets) (g : Glyph) : Bool :=
  !g.literal && separators.contains g.octet

/-- Whether a glyph is a separator of white space. -/
def isSoft (separators : Octets) (g : Glyph) : Bool :=
  isSeparator separators g && (g.octet == ' ' || g.octet == '\t' || g.octet == '\n')

/-- A field in front of a line that does not begin with white space, and the line behind it. -/
def nextField (separators : Octets) (gs : List Glyph) : List Glyph × List Glyph :=
  let field := gs.takeWhile fun g => !isSeparator separators g
  let behind := (gs.drop field.length).dropWhile (isSoft separators)
  match behind with
  | g :: rest =>
      if isSeparator separators g then (field, rest.dropWhile (isSoft separators))
      else (field, behind)
  | [] => (field, [])

/-- A line without the white space behind it. -/
def trimEnd (separators : Octets) (gs : List Glyph) : List Glyph :=
  (gs.reverse.dropWhile (isSoft separators)).reverse

/-- The texts of so many fields of a line, the last of which is all that is left. -/
def fieldsFor (separators : Octets) : Nat → List Glyph → List Octets
  | 0, _ => []
  | 1, gs =>
      let (field, behind) := nextField separators gs
      [octetsOfGlyphs (if behind.isEmpty then field else trimEnd separators gs)]
  | n + 2, gs =>
      let (field, behind) := nextField separators gs
      octetsOfGlyphs field :: fieldsFor separators (n + 1) behind

/-- All fields of a line. The number bounds them. -/
def allFields (separators : Octets) : Nat → List Glyph → List Octets
  | 0, _ => []
  | _, [] => []
  | n + 1, gs =>
      let (field, behind) := nextField separators gs
      octetsOfGlyphs field :: allFields separators n behind

/-! ### Reading into variables -/

/-- Setting a variable to what has been read. -/
def setRead (command name cs : Octets) : Deed Nat := do
  let isConstant := ((← Action.variableNamed? name).map Variable.constant).getD false
  if isConstant && (← Action.isExtended) then
    Action.complain (name ++ octetsOf ": readonly variable")
    return 1
  else if isConstant then fail command (name ++ octetsOf ": is read only") 2
  else
    Action.setText name cs
    return 0

/-- Refusing what cannot be the name of a variable. -/
def checkName (command name : Octets) : Deed Unit := do
  if !isName name && (elementOf? name).isNone then
    failBy command (name ++ octetsOf ": bad variable name")
      (octetsOf "`" ++ name ++ octetsOf "': not a valid identifier") 2 1

/-- How the options say that a line is read. -/
def lineRules (os : List (Char × Octets)) : LineRules where
  mark := if has os 'N' then none else some (match os.lookup 'd' with
    | some (c :: _) => c
    | some [] => '\x00'
    | none => '\n')
  limit := ((os.lookup 'n').or (os.lookup 'N')).bind plainNumber?
  escapes := !has os 'r'

/-- Reading a line from a stream. -/
def readFrom (stream : Nat) (rules : LineRules) : Action LineRead := do
  let l := takeLine rules 0 (← Action.streamRest stream)
  match ← Action.channelNumber? stream with
  | some i => Action.advance i l.taken
  | none => pure ()
  return l

/-- The options of the extended shell for reading a line. -/
def extendedReadOptions (name : Octets) (args : List Octets) :
    Deed (List (Char × Octets) × List Octets) :=
  options name "ers" "adinNptu" args

/-- Reading a line into variables. -/
def read : Builtin := fun _ name args => do
  let extended ← Action.isExtended
  let (os, names) ← if extended then extendedReadOptions name args else options name "r" "p" args
  if names.isEmpty && !extended then fail name (octetsOf "arg count") 2
  else
    names.forM (checkName name)
    let stream := ((os.lookup 'u').bind plainNumber?).getD 0
    if extended && (← Action.channelNumber? stream).isNone then
      let n := Numeral.digits stream
      if has os 'u' then
        fail name (n ++ octetsOf ": invalid file descriptor: Bad file descriptor") 1
      else fail name (octetsOf "read error: " ++ n ++ octetsOf ": Bad file descriptor") 1
    else
      let l ← readFrom stream (lineRules os)
      let separators ← Expand.separators
      let begun := l.glyphs.dropWhile (isSoft separators)
      let set ← match os.lookup 'a' with
        | some list => do
            let fields := allFields separators begun.length begun
            let v := (← Action.variableNamed? list).getD Assignment.unset
            let entries := fields.mapIdx fun i cs => (i, cs)
            Action.putVariable list { v with value := some (.list entries) }
            pure 0
        | none => match names with
          | [] => do
              Action.setText "REPLY".toList (octetsOfGlyphs l.glyphs)
              pure 0
          | names => do
              let whole := has os 'N'
              let texts := if whole then [octetsOfGlyphs l.glyphs]
                else fieldsFor separators names.length begun
              let codes ← names.mapIdxM fun i x => setRead name x (texts.getD i [])
              pure (codes.foldl max 0)
      return if set != 0 then set else if l.isComplete then 0 else 1

/-- Reading lines into a list. -/
def readLines : Builtin := fun _ name args => do
  let (os, names) ← options name "t" "dnOsucC" args
  let list := names.headD "MAPFILE".toList
  checkName name list
  let stream := ((os.lookup 'u').bind plainNumber?).getD 0
  let text ← Action.streamRest stream
  match ← Action.channelNumber? stream with
  | some i => Action.advance i text.length
  | none => pure ()
  let ls := (linesOf text).drop (((os.lookup 's').bind plainNumber?).getD 0)
  let ls := match ((os.lookup 'n').bind plainNumber?).filter (0 < ·) with
    | some n => ls.take n
    | none => ls
  let isOpen := text.getLast?.any (· != '\n')
  let count := ls.length
  let start := ((os.lookup 'O').bind plainNumber?).getD 0
  let entries := ls.mapIdx fun i cs =>
    (start + i, if has os 't' || (isOpen && i + 1 = count) then cs else cs ++ ['\n'])
  let v := (← Action.variableNamed? list).getD Assignment.unset
  Action.putVariable list { v with value := some (.list entries) }
  return 0

/-! ### Options of arguments -/

/-- What the next option of arguments is. -/
inductive NextOption where
  /-- There is none. -/
  | none
  /-- An option without a value. -/
  | flag (c : Char)
  /-- An option with a value, which may be the next argument. -/
  | valued (c : Char) (value : Octets) (isNext : Bool)
  /-- An option whose value is missing. -/
  | missing (c : Char)
  /-- An option that is not known. -/
  | unknown (c : Char)

/-- The next option, in an argument of which letters have been taken, before others. -/
def nextOption (known : Octets) (taken : Nat) (argument : Option Octets) (next : Option Octets) :
    NextOption :=
  match argument with
  | some ('-' :: cs) => match cs.drop taken with
    | [] => .none
    | c :: rest =>
        if cs = ['-'] then .none
        else match known.dropWhile (· != c) with
          | [] => .unknown c
          | _ :: ':' :: _ =>
              if c = ':' then .unknown c
              else if !rest.isEmpty then .valued c rest false
              else match next with
                | some v => .valued c v true
                | none => .missing c
          | _ => if c = ':' then .unknown c else .flag c
  | _ => .none

/-- Saying that an option is not known or lacks its value, unless this is not wanted; what the two
variables are set to comes back. -/
def sayOption (silent : Bool) (c : Char) (isMissing : Bool) : Deed (Octets × Option Octets) := do
  if silent then return (if isMissing then [':'] else ['?'], some [c])
  else
    let sh ← Action.shell
    let message := match sh.dialect with
      | .plain =>
          if isMissing then octetsOf "No arg for -" ++ [c] ++ octetsOf " option"
          else octetsOf "Illegal option -" ++ [c]
      | .extended =>
          sh.speaker ++ octetsOf (if isMissing then ": option requires an argument -- "
            else ": illegal option -- ") ++ [c]
    Action.put 2 (message ++ ['\n'])
    return (['?'], none)

/-- Setting a variable, or removing it. -/
def setOrRemove (name : Octets) : Option Octets → Action Unit
  | some cs => Action.setText name cs
  | none => Action.removeVariable name

/-- Putting the next option of arguments into a variable. The common shell counts an argument as soon
as it looks at it, the extended one when it is done with it. -/
def nextOptionInto (name known target : Octets) (args : List Octets) : Deed Nat := do
  checkName name target
  let sh ← Action.shell
  let counted := ((plainNumber? (← Action.textOf "OPTIND")).getD 1).max 1
  let taken := sh.lettersTaken
  let ahead := if sh.dialect = .plain then 1 else 0
  let position := if taken = 0 then counted else counted - ahead
  let argument := args[position - 1]?
  let next := args[position]?
  let silent := known.head? = some ':' || (← Action.textOf "OPTERR") = ['0']
  let known := if known.head? = some ':' then known.drop 1 else known
  let letters := ((argument.map List.length).getD 1) - 1
  let isLast := letters ≤ taken + 1
  let step (skip : Nat) (newTaken : Nat) : Action Unit := do
    Action.setText "OPTIND".toList (Numeral.digits (position + skip))
    Action.changeShell fun sh => { sh with lettersTaken := newTaken }
  let pass : Action Unit := if isLast then step 1 0 else step ahead (taken + 1)
  let finish (value : Octets) (argument : Option Octets) : Deed Nat := do
    Action.setText target value
    setOrRemove "OPTARG".toList argument
    return 0
  match nextOption known taken argument next with
  | .none => do
      step (if argument = some ['-', '-'] then 1 else 0) 0
      Action.setText target ['?']
      Action.removeVariable "OPTARG".toList
      return 1
  | .flag c => do
      pass
      finish [c] none
  | .valued c value isNext => do
      step (if isNext then 2 else 1) 0
      finish [c] (some value)
  | .missing c => do
      pass
      let (value, argument) ← sayOption silent c true
      finish value argument
  | .unknown c => do
      pass
      let (value, argument) ← sayOption silent c false
      finish value argument

/-- Putting the next option of arguments into a variable, those of the shell if none are given. -/
def getopts : Builtin := fun _ name args => do
  match args with
  | known :: target :: rest => do
      let own := (← Action.shell).arguments
      nextOptionInto name known target (if rest.isEmpty then own else rest)
  | _ => do
      if ← Action.isExtended then failUsage name
      else fail name (octetsOf "Usage: getopts optstring var [arg...]") 2

end Builtin

end Script

end LineShell
