import LineShell.Script.Calculation
import LineShell.Script.Pattern
import LineShell.Script.Quote

/-!
# What words stand for

A word gives fields. Each octet of a field is a glyph, which knows whether it has been quoted: only
those that have not can be marks in a pattern of names. What an unquoted parameter, expression or
script stands for is cut into fields at the separators.

Words hold scripts, and scripts words; what is nested is left to an `Engine`.
-/

namespace LineShell

namespace Script

/-! ### Fields -/

/-- The fields that a word gives: those that are complete, the last first, and the one at hand. -/
structure Fields where
  /-- The complete fields, the last first. -/
  complete : List (List Glyph)
  /-- The field at hand, if one has begun. -/
  current : Option (List Glyph)
  /-- Whether white space alone has ended the last field. -/
  isSoft : Bool

namespace Fields

/-- No fields. -/
def none : Fields := ⟨[], .none, false⟩

/-- Glyphs added to the field at hand. -/
def add (f : Fields) (gs : List Glyph) : Fields :=
  { f with current := some (f.current.getD [] ++ gs), isSoft := false }

/-- The field at hand completed. -/
def cut (f : Fields) : Fields :=
  match f.current with
  | some gs => ⟨gs :: f.complete, .none, false⟩
  | .none => f

/-- What a separator does: white space ends a field that has begun; another one ends a field in any
case, unless white space before it has done so. -/
def separate (f : Fields) (c : Char) : Fields :=
  if c = ' ' ∨ c = '\t' ∨ c = '\n' then
    match f.current with
    | some gs => ⟨gs :: f.complete, .none, true⟩
    | .none => f
  else match f.current with
    | some gs => ⟨gs :: f.complete, .none, false⟩
    | .none => if f.isSoft then { f with isSoft := false } else ⟨[] :: f.complete, .none, false⟩

/-- Octets added that are cut at separators. -/
def addCut (separators : Octets) (f : Fields) (cs : Octets) : Fields :=
  cs.foldl (fun f c => if separators.contains c then f.separate c else f.add [⟨c, false⟩]) f

/-- The fields in order. -/
def toList (f : Fields) : List (List Glyph) := f.cut.complete.reverse

/-- All glyphs of the fields. -/
def allGlyphs (f : Fields) : List Glyph := f.toList.flatten

end Fields

/-- How a word is expanded. -/
structure Mode where
  /-- Whether what unquoted parts stand for is cut. -/
  cuts : Bool
  /-- Whether unquoted text is cut as well. -/
  cutsText : Bool

/-- What is nested in words. -/
structure Engine where
  /-- Runs a script. -/
  run : List Item → Action Unit
  /-- Runs a text. -/
  runText : Octets → Action Unit
  /-- Adds what a word stands for to fields. -/
  fields : Mode → Word → Fields → Action Fields

/-! ### Parameters -/

namespace Expand

/-- The number of the shell's process. -/
def processNumber : Octets := "4242".toList

/-- The separators of fields. -/
def separators : Action Octets := do
  match ← Action.variableNamed? "IFS".toList with
  | some v => return (v.value.bind Action.textOfValue).getD []
  | none => return " \t\n".toList

/-- The separator that joins arguments. -/
def joiner : Action Octets := do
  match ← Action.variableNamed? "IFS".toList with
  | some v => return ((v.value.bind Action.textOfValue).getD []).take 1
  | none => return [' ']

/-- The settings of one letter as a text. -/
def flagsText (sh : Shell) : Octets :=
  match sh.dialect with
  | .plain => "pubaCEVvxsnmiIfe".toList.filter sh.flags.contains
  | .extended => "abefhkmnptuvxBCEHPTcs".toList.filter sh.flags.contains

/-- What has been fetched for a parameter. -/
inductive Fetched where
  /-- A value, if there is one. -/
  | one (v : Option Octets)
  /-- Several values; whether they are to be one where they are quoted. -/
  | several (vs : List Octets) (joined : Bool)

/-- The values of a list with their subscripts. -/
def entriesOf : Option Value → List (Octets × Octets)
  | some (.list entries) => entries.map fun (n, cs) => (Numeral.digits n, cs)
  | some (.table entries) => entries
  | some (.text cs) => [(['0'], cs)]
  | none => []

/-- The value of a parameter of one character, or of an argument. -/
def special? (sh : Shell) (name : Octets) : Option (Option Octets) :=
  match name with
  | ['?'] => some (some (Numeral.digits sh.code))
  | ['$'] => some (some processNumber)
  | ['#'] => some (some (Numeral.digits sh.arguments.length))
  | ['-'] => some (some (flagsText sh))
  | ['!'] => some (sh.children.head?.map fun c => Numeral.digits c.1)
  | ['0'] => some (some sh.name)
  | c :: cs =>
      if isAsciiDigit c then some sh.arguments[ofDigits (c :: cs) - 1]?
      else if name = "LINENO".toList && sh.dialect = .extended then
        some (some (Numeral.digits sh.line))
      else none
  | [] => none

/-- The text of a subscript. -/
def subscriptText (e : Engine) (w : Word) : Action Octets := do
  return octetsOfGlyphs (← e.fields ⟨false, false⟩ w .none).allGlyphs

/-- Stopping for what an expression or a subscript is faulty by. -/
def stopCalculation {α : Type} (message : Octets) : Action α := do
  Action.complain message
  if ← Action.isExtended then throw (.abandon 1) else throw (.finish 2)

/-- The value of a calculation; the shell complains about a faulty one, and stops. -/
def calculated {α : Type} (c : Calculation α) : Action α := do
  match ← c.run with
  | .ok a => return a
  | .error message => stopCalculation message

/-- What there is for a parameter. -/
def fetch (e : Engine) (name : Octets) (sub : Word) : Action Fetched := do
  let sh ← Action.shell
  if name = ['@'] then return .several sh.arguments false
  else if name = ['*'] then return .several sh.arguments true
  else match special? sh name with
    | some v => return .one v
    | none =>
        if sub.isEmpty then return .one (← Action.textOf? name)
        else
          let key ← subscriptText e sub
          let v := (← Action.variableNamed? name).bind Variable.value
          if key = ['@'] then return .several ((entriesOf v).map Prod.snd) false
          else if key = ['*'] then return .several ((entriesOf v).map Prod.snd) true
          else
            let k ← calculated (Calculation.keyOf Calculation.evaluate name key)
            return .one (v.bind (Calculation.element? · k))

/-! ### Adding values -/

/-- Adding a value. -/
def addValue (m : Mode) (quoted : Bool) (cs : Octets) (f : Fields) : Action Fields := do
  if quoted || !m.cuts then return f.add (glyphs quoted cs)
  else return f.addCut (← separators) cs

/-- Adding values, with the field at hand cut between them. -/
def addEach (m : Mode) (quoted : Bool) : List Octets → Fields → Action Fields
  | [], f => return f
  | [v], f => addValue m quoted v f
  | v :: vs, f => do addEach m quoted vs (← addValue m quoted v f).cut

/-- Adding several values. -/
def addSeveral (m : Mode) (quoted isOne : Bool) (vs : List Octets) (f : Fields) :
    Action Fields := do
  if m.cuts && !(quoted && isOne) then addEach m quoted vs f
  else
    let between ← if isOne || !(← Action.isExtended) then joiner else pure [' ']
    addValue m quoted (between.intercalate vs) f

/-- Adding what has been fetched. -/
def addFetched (m : Mode) (quoted : Bool) (v : Fetched) (f : Fields) : Action Fields := do
  match v with
  | .one none => if quoted then return f.add [] else return f
  | .one (some cs) => addValue m quoted cs f
  | .several vs isOne => addSeveral m quoted isOne vs f

/-- Whether a value counts as missing. -/
def isMissing (orEmpty : Bool) : Fetched → Bool
  | .one none => true
  | .one (some cs) => orEmpty && cs.isEmpty
  | .several vs _ => vs.isEmpty || (orEmpty && vs.all List.isEmpty)

/-- What an operation on single values makes of what has been fetched. -/
def mapFetched (g : Octets → Octets) : Fetched → Fetched
  | .one v => .one (v.map g)
  | .several vs isOne => .several (vs.map g) isOne

/-! ### Words as texts and patterns -/

/-- The text that a word stands for. -/
def text (e : Engine) (w : Word) : Action Octets := do
  return octetsOfGlyphs (← e.fields ⟨false, false⟩ w .none).allGlyphs

/-- The pattern that a word stands for. -/
def pattern (e : Engine) (w : Word) : Action (List Mark) := do
  return marksOf (← e.fields ⟨false, false⟩ w .none).allGlyphs

/-! ### Operations -/

/-- Stopping because a parameter has no value. -/
def stopUnset {α : Type} (name message : Octets) : Action α := do
  Action.stopFor (name ++ octetsOf ": " ++ message) 2 127

/-- What is said about a missing value when nothing else is to be said. -/
def unsetMessage (orEmpty extended : Bool) : String :=
  if !orEmpty then "parameter not set"
  else if extended then "parameter null or not set" else "parameter not set or null"

/-- Adding the value of a parameter or a substitute for it. -/
def substitute (e : Engine) (m : Mode) (quoted : Bool) (name : Octets) (v : Fetched)
    (s : Substitute) (orEmpty : Bool) (w : Word) (f : Fields) : Action Fields := do
  let missing := isMissing orEmpty v
  match s with
  | .otherwise =>
      if missing then e.fields { m with cutsText := !quoted } w f
      else addFetched m quoted v f
  | .instead =>
      if !missing then e.fields { m with cutsText := !quoted } w f
      else if quoted then return f.add [] else return f
  | .assigned =>
      if missing then
        if isName name then
          let cs ← text e w
          Action.setText name cs
          addValue m quoted cs f
        else if ← Action.isExtended then
          Action.complain ('$' :: name ++ octetsOf ": cannot assign in this way")
          throw (.abandon 1)
        else Action.stopFor (name ++ octetsOf ": bad variable name") 2 1
      else addFetched m quoted v f
  | .complaint =>
      if missing then
        let extended ← Action.isExtended
        let cs ← text e w
        stopUnset name (if cs.isEmpty then octetsOf (unsetMessage orEmpty extended) else cs)
      else addFetched m quoted v f

/-- A piece of a list of values. -/
def pieceOf {α : Type} (start : Int) (length : Option Int) (l : List α) : List α :=
  let n : Int := l.length
  let start := if start < 0 then n + start else start
  if start < 0 then []
  else
    let rest := l.drop start.toNat
    match length with
    | none => rest
    | some k => if k < 0 then rest.take (n + k - start).toNat else rest.take k.toNat

/-- The value of an expression in a word. -/
def number (e : Engine) (w : Word) : Action Int := do
  calculated (Calculation.evaluate (← text e w))

/-- The piece of a value that two expressions ask for. -/
def slice (e : Engine) (name : Octets) (v : Fetched) (start : Word) (length : Option Word) :
    Action Fetched := do
  let start ← number e start
  let length ← match length with
    | some w => some <$> number e w
    | none => pure none
  match v with
  | .one v => return .one (v.map (pieceOf start length))
  | .several vs isOne => do
      let isArguments := name = ['@'] ∨ name = ['*']
      let zero := (← Action.shell).name
      let all := if isArguments then zero :: vs else vs
      return .several (pieceOf start length all) isOne

/-- A text with the letters that a pattern fits in capitals or not. -/
def recase (ms : List Mark) (upper all : Bool) (cs : Octets) : Octets :=
  let change (c : Char) : Char :=
    if ms.isEmpty || fits ms [c] then (if upper then c.toUpper else c.toLower) else c
  match all, cs with
  | true, cs => cs.map change
  | false, c :: cs => change c :: cs
  | false, [] => []

/-- Whether a character has to be quoted. -/
def isPlainChar (c : Char) : Bool := c.isAlphanum || "_-./:=@%+,".toList.contains c

/-- A text between quotation marks. -/
def quoted (cs : Octets) : Octets :=
  if !cs.all isPrintable then dollarQuoted cs
  else '\'' :: cs.flatMap (fun c => if c = '\'' then "'\\''".toList else [c]) ++ ['\'']

/-- A value in a form that a letter stands for. -/
def inForm (letter : Char) (cs : Octets) : Octets :=
  match letter with
  | 'Q' => quoted cs
  | 'U' => cs.map Char.toUpper
  | 'L' => cs.map Char.toLower
  | 'u' => recase [] true false cs
  | 'E' => unescapeQuoted cs
  | _ => cs

/-- A value with what a pattern fits replaced. -/
def replace (ms : List Mark) (o : Occurrence) (new cs : Octets) : Octets :=
  match o with
  | .first => replaceFrom ms new false cs.length cs
  | .all => replaceFrom ms new true cs.length cs
  | .start => match longestAt? ms cs with
    | some n => new ++ cs.drop n
    | none => cs
  | .finish =>
      let cut := trim ms true true cs
      if cut.length < cs.length || fits ms [] then cut ++ new else cs

/-- Stopping where a missing value is not allowed. -/
def checkSet (name : Octets) (v : Fetched) : Action Unit := do
  match v with
  | .one none =>
      if ← Action.hasFlag 'u' then
        if ← Action.isExtended then
          let shown := if isName name then name else '$' :: name
          stopUnset shown (octetsOf "unbound variable")
        else stopUnset name (octetsOf "parameter not set")
  | _ => pure ()

/-- The length of what has been fetched. -/
def lengthOf : Fetched → Nat
  | .one v => (v.getD []).length
  | .several vs _ => vs.length

/-- The name and the subscript that a text writes. -/
def nameAndSubscript (cs : Octets) : Octets × Word :=
  let name := cs.takeWhile isNameChar
  match cs.drop name.length with
  | '[' :: rest => (name, [.text true rest.dropLast])
  | _ => (cs, [])

/-- Adding what an operation makes of a parameter. -/
def parameter (e : Engine) (m : Mode) (quoted : Bool) (name : Octets) (sub : Word)
    (op : Operation) (f : Fields) : Action Fields := do
  match op with
  | .meaningless raw =>
      if ← Action.isExtended then
        Action.complain (octetsOf "$\x7b" ++ raw ++ octetsOf ": bad substitution")
        throw (.abandon 1)
      else Action.stopFor (octetsOf "Bad substitution") 2 1
  | .names => do
      let all := (← Action.shell).vars.filter fun v => name.isPrefixOf v.1
      addSeveral m quoted false ((all.map Prod.fst).mergeSort octetsLe) f
  | .subscripts => do
      let v := (← Action.variableNamed? name).bind Variable.value
      addSeveral m quoted false ((entriesOf v).map Prod.fst) f
  | .indirect => do
      match ← fetch e name sub with
      | .one (some target) => do
          let (name, sub) := nameAndSubscript target
          addFetched m quoted (← fetch e name sub) f
      | _ => if quoted then return f.add [] else return f
  | .substitute s orEmpty w => do
      substitute e m quoted name (← fetch e name sub) s orEmpty w f
  | op => do
      let v ← fetch e name sub
      checkSet name v
      match op with
      | .length => addValue m quoted (Numeral.digits (lengthOf v)) f
      | .trim atEnd longest w => do
          let ms ← pattern e w
          addFetched m quoted (mapFetched (trim ms atEnd longest) v) f
      | .slice start length => do addFetched m quoted (← slice e name v start length) f
      | .replace o w new => do
          let ms ← pattern e w
          let new ← text e new
          addFetched m quoted (mapFetched (replace ms o new) v) f
      | .recase upper all w => do
          let ms ← pattern e w
          addFetched m quoted (mapFetched (recase ms upper all) v) f
      | .form letter => addFetched m quoted (mapFetched (inForm letter) v) f
      | _ => addFetched m quoted v f

/-! ### Parts -/

/-- What a copy of the shell does before it ends. -/
def atEnd (e : Engine) : Action Unit := do
  match (← Action.shell).traps.lookup "EXIT".toList with
  | some cs => do
      Action.changeShell fun sh => { sh with traps := [] }
      e.runText cs
  | none => pure ()

/-- A shell for a script in a word. The extended one does not end there where a command fails, unless
it is told to. -/
def shellInWord (sh : Shell) : Shell :=
  let flags := if sh.dialect = .extended && !sh.settings.contains "inherit_errexit" then
      sh.flags.filter (· != 'e')
    else sh.flags
  { sh with flags := flags, isTested := false, level := sh.level + 1 }

/-- The output of a script, without the ends of line behind it and without null characters. -/
def output (e : Engine) (a : Action Unit) : Action Octets := do
  let cs ← Action.captured (atEnd e) (do
    Action.changeShell shellInWord
    a)
  Action.changeShell fun sh => { sh with outputCode := sh.code }
  return dropFinalNewlines (cs.filter (· != '\x00'))

/-- The directory of the files that hold the outputs of scripts. -/
def outputDirectory : List String := ["dev", "fd"]

/-- The number of the first of those files. -/
def firstOutput : Nat := 63

/-- A file that holds the output of a script, by its path. -/
def outputFile (e : Engine) (script : List Item) : Action Octets := do
  let cs ← Action.captured (atEnd e) (e.run script)
  let used := match (← Action.disk).nodeAt outputDirectory with
    | some (.directory es) => es.length
    | _ => 0
  let n := Numeral.digits (firstOutput - used)
  Action.setFileOctets (outputDirectory ++ [String.ofList n]) cs
  return octetsOf "/dev/fd/" ++ n

/-- Adding what a part stands for. -/
def part (e : Engine) (m : Mode) (f : Fields) : Part → Action Fields
  | .text true cs => return f.add (glyphs true cs)
  | .text false cs => do
      if m.cutsText then
        if m.cuts then return f.addCut (← separators) cs else return f.add (glyphs false cs)
      else return f.add (glyphs false cs)
  | .parameter quoted name sub op => parameter e m quoted name sub op f
  | .arithmetic quoted w => do
      let n ← Calculation.evaluateHere (← text e w)
      addValue m quoted (Numeral.signedDigits n) f
  | .output quoted script => do addValue m quoted (← output e (e.run script)) f
  | .outputOf quoted cs => do
      let a : Action Unit := do
        Action.changeShell fun sh => { sh with origin := "command substitution" }
        e.runText cs
      addValue m quoted (← output e a) f
  | .subscript w => do
      return (← e.fields m w (f.add (glyphs true ['[']))).add (glyphs true [']'])
  | .elements ws => do
      ws.foldlM (fun f w => e.fields m w f) (f.add (glyphs true ['(']))
  | .file script => do return f.add (glyphs true (← outputFile e script))

/-- Adding what a word stands for. -/
def parts (e : Engine) (m : Mode) (w : Word) (f : Fields) : Action Fields :=
  w.foldlM (part e m) f

/-! ### Homes and alternatives -/

/-- What a tilde with a name behind it stands for. -/
def home? (name : Octets) : Action (Option Octets) := do
  if name.isEmpty then Action.textOf? "HOME".toList
  else if name = "root".toList then return some "/root".toList
  else if (← Action.isExtended) && name = ['+'] then Action.textOf? "PWD".toList
  else return none

/-- A text that begins with a tilde, as parts. -/
def tildeParts (cs : Octets) : Action Word := do
  match cs with
  | '~' :: rest => do
      let name := rest.takeWhile fun c => c != '/' && c != ':'
      match ← home? name with
      | some h => return [.text true h, .text false (rest.drop name.length)]
      | none => return [.text false cs]
  | cs => return [.text false cs]

/-- Whether a tilde may be expanded before the rest of a word. -/
def endsTilde (cs : Octets) (rest : Word) : Bool :=
  rest.isEmpty || cs.any fun c => c == '/' || c == ':'

/-- A word with a tilde in front expanded. -/
def tilde (w : Word) : Action Word := do
  match w with
  | .text false cs :: rest =>
      if cs.head? == some '~' && endsTilde cs rest then return (← tildeParts cs) ++ rest
      else return w
  | w => return w

/-- The value of an assignment with the tildes in front and behind colons expanded. -/
def assignedTildes (w : Word) : Action Word := do
  match w with
  | .text false cs :: rest => do
      if !cs.contains '~' then return w
      else
        let pieces := cs.splitOn ':'
        let expanded ← pieces.mapM tildeParts
        return [.text false [':']].intercalate expanded ++ rest
  | w => return w

/-! ### Fields of words -/

/-- The names that a field stands for. -/
def names (gs : List Glyph) : Action (List Octets) := do
  if ← Action.hasFlag 'f' then return [octetsOfGlyphs gs]
  else if !isPattern gs then return [octetsOfGlyphs gs]
  else
    let found := expandPattern (← Action.disk) gs
    let extended ← Action.isExtended
    let found := if extended then found.filter fun cs =>
        let last := (cs.splitOn '/').getLast?.getD []
        last != ['.'] && last != ['.', '.']
      else found
    if !found.isEmpty then return found
    else if ← Action.hasSetting "nullglob" then return []
    else if ← Action.hasSetting "failglob" then do
      Action.complain (octetsOf "no match: " ++ octetsOfGlyphs gs)
      throw (.abandon 1)
    else return [octetsOfGlyphs gs]

end Expand

end Script

end LineShell
