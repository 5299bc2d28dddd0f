import LineShell.Script.Format
import LineShell.Script.Tool.Quantity

/-!
# Tools that write

Tools that write what their arguments say: texts, parts of paths, variables.
-/

namespace LineShell

namespace Script

namespace Tool

/-- Doing nothing. -/
def succeed : Tool := fun _ => return 0

/-- Failing without a word. -/
def fail : Tool := fun _ => return 1

/-- Writing a line. -/
def answer (cs : Octets) : Tool := fun _ => do
  write (cs ++ ['\n'])
  return 0

/-! ### Texts -/

/-- Whether an argument consists of the letters of options for writing texts. -/
def isEchoOption (a : Octets) : Bool :=
  match a with
  | '-' :: c :: cs => (c :: cs).all "neE".toList.contains
  | _ => false

/-- Whether the last of some letters among arguments says that escapes are read. -/
def readsEscapes (default : Bool) (options : List Octets) : Bool :=
  match (options.flatten.filter "eE".toList.contains).getLast? with
  | some c => c == 'e'
  | none => default

/-- Arguments as a line, with escapes read if an option asks for it. -/
def echoText (rules : EscapeRules) (escapesByDefault : Bool) (args : List Octets) : Octets :=
  let options := args.takeWhile isEchoOption
  let text := joined (args.drop options.length)
  let newline := if options.any (·.contains 'n') then [] else ['\n']
  if readsEscapes escapesByDefault options then
    let (out, ended) := unescape rules text
    if ended then out else out ++ newline
  else text ++ newline

/-- Arguments as a line in the common shell, which reads escapes and knows one option. -/
def plainEchoText (args : List Octets) : Octets :=
  let (newline, args) := match args with
    | ['-', 'n'] :: rest => ([], rest)
    | args => (['\n'], args)
  let (out, ended) := unescape .plainText (joined args)
  if ended then out else out ++ newline

/-- Writing the arguments. -/
def echo : Tool := fun c => do
  write (echoText .toolText false c.args)
  return 0

/-- Writing the arguments by a format. -/
def printf : Tool := fun c => do
  match if c.args.head? = some ['-', '-'] then c.args.drop 1 else c.args with
  | [] => failUsage c 1 (octetsOf "missing operand")
  | fmt :: args => do
      let f := Format.apply .tool fmt args
      write f.octets
      f.faults.forM (say c)
      if !f.took && !args.isEmpty && !f.ended then
        say c (octetsOf "warning: ignoring excess arguments, starting with " ++
          quoteText (args.headD []))
      return f.code

/-- Writing a line again and again. -/
def yes : Tool := fun c => do
  let a ← arguments ⟨"", [], false, 1⟩ c
  let line := if a.operands.isEmpty then ['y'] else joined a.operands
  write (List.replicate manyLines (line ++ ['\n'])).flatten
  return 0

/-! ### Parts of paths -/

/-- A path without the slashes behind it. -/
def dropSlashes (cs : Octets) : Octets :=
  let kept := (cs.reverse.dropWhile (· == '/')).reverse
  if kept.isEmpty && !cs.isEmpty then ['/'] else kept

/-- The last name of a path. -/
def lastName (cs : Octets) : Octets :=
  let cs := dropSlashes cs
  if cs = ['/'] then cs else (cs.splitOn '/').getLast?.getD []

/-- A path without its last name. -/
def directoryOf (cs : Octets) : Octets :=
  let kept := dropSlashes cs
  if kept = ['/'] then kept
  else if !kept.contains '/' then ['.']
  else dropSlashes (kept.take (kept.length - (lastName kept).length))

/-- A name without an ending that is not all of it. -/
def dropEnding (ending name : Octets) : Octets :=
  if ending.isSuffixOf name && ending.length < name.length then
    name.take (name.length - ending.length)
  else name

/-- Writing the last names of paths. -/
def basename : Tool := fun c => do
  let a ← arguments ⟨"as:z", [("multiple", 'a'), ("suffix", 's'), ("zero", 'z')], false, 1⟩ c
  let finish := if a.has 'z' then ['\x00'] else ['\n']
  if a.has 'a' || a.has 's' then
    if a.operands.isEmpty then failUsage c 1 (octetsOf "missing operand")
    else do
      write (a.operands.flatMap fun p =>
        dropEnding ((a.value? 's').getD []) (lastName p) ++ finish)
      return 0
  else match a.operands with
    | [] => failUsage c 1 (octetsOf "missing operand")
    | [p] => do
        write (lastName p ++ finish)
        return 0
    | [p, ending] => do
        write (dropEnding ending (lastName p) ++ finish)
        return 0
    | _ :: _ :: extra :: _ => failUsage c 1 (octetsOf "extra operand " ++ quoteText extra)

/-- Writing paths without their last names. -/
def dirname : Tool := fun c => do
  let a ← arguments ⟨"z", [("zero", 'z')], false, 1⟩ c
  let finish := if a.has 'z' then ['\x00'] else ['\n']
  if a.operands.isEmpty then failUsage c 1 (octetsOf "missing operand")
  else do
    write (a.operands.flatMap fun p => directoryOf p ++ finish)
    return 0

/-! ### The surroundings -/

/-- Waiting, which takes no time. -/
def sleep : Tool := fun c => do
  let a ← arguments ⟨"", [], true, 1⟩ c
  let isTime (cs : Octets) : Bool :=
    let cs := match cs.getLast? with
      | some k => if "smhd".toList.contains k then cs.dropLast else cs
      | none => cs
    (decimal? cs).any fun d => 0 ≤ d.coefficient
  if a.operands.isEmpty then failUsage c 1 (octetsOf "missing operand")
  else do
    let wrong := a.operands.filter fun t => !isTime t
    wrong.forM fun t => say c (octetsOf "invalid time interval " ++ quoteText t)
    if wrong.isEmpty then return 0
    else do
      pointToManual c
      return 1

/-- Writing variables that programs see. -/
def printenv : Tool := fun c => do
  let a ← arguments ⟨"0", [("null", '0')], false, 2⟩ c
  let finish := if a.has '0' then ['\x00'] else ['\n']
  if a.operands.isEmpty then do
    write (c.environment.flatMap fun (n, v) => n ++ '=' :: v ++ finish)
    return 0
  else forEach a.operands fun n => do
    match c.environment.lookup n with
    | some v => do
        write (v ++ finish)
        return true
    | none => return false

/-- Writing the path of the working directory. -/
def pwd : Tool := fun c => do
  let _ ← arguments ⟨"LP", [("logical", 'L'), ("physical", 'P')], true, 1⟩ c
  let names := (← get).disk.working
  write ('/' :: ['/'].intercalate (names.map octetsOf) ++ ['\n'])
  return 0

end Tool

end Script

end LineShell
