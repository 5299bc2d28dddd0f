import LineShell.Script.Condition
import LineShell.Script.Tool.Basic

/-!
# Tools that hardly do anything here

A tool for conditions, tools that tell about the system, and tools of which only what they say to
arguments that they do not take is kept.
-/

namespace LineShell

namespace Script

namespace Tool

/-! ### Conditions -/

/-- What a test of one operand comes to for a tool. -/
def askFile (d : Disk) : Condition.Inquiry := fun letter x =>
  match letter with
  | 'n' => !x.isEmpty
  | 'z' => x.isEmpty
  | letter => Condition.testFile d letter x

/-- Testing a condition, perhaps between brackets. -/
def test (bracket : Bool) : Tool := fun c => do
  if bracket && c.args.getLast? ≠ some [']'] then failWith c 2 (octetsOf "missing ']'")
  else do
    let d := (← get).disk
    let args := if bracket then c.args.dropLast else c.args
    match Condition.evaluate ⟨.tool, d, askFile d⟩ args with
    | .ok v => return if v then 0 else 1
    | .error e => failWith c 2 e

/-! ### The system -/

/-- Refusing an option, and else doing nothing. -/
def refuse (code : Nat) : Tool := fun c =>
  match c.args.find? fun a => a.head? = some '-' && a.length ≠ 1 with
  | some ('-' :: o :: _) => failUsage c code (octetsOf "invalid option -- '" ++ [o, '\''])
  | _ => return 0

/-- Writing a line unless there are options. -/
def tell (line : String) (code refusalCode : Nat) : Tool := fun c => do
  if c.args.any (·.head? = some '-') then refuse refusalCode c
  else do
    write (octetsOf line ++ ['\n'])
    return code

/-- Telling who runs the shell. -/
def identity : Tool := fun c => do
  let a ← arguments ⟨"agnruzGZ", [("context", 'Z'), ("group", 'g'), ("groups", 'G'), ("name", 'n'),
    ("real", 'r'), ("user", 'u'), ("zero", 'z')], true, 1⟩ c
  if a.has 'u' || a.has 'g' || a.has 'G' then
    write (octetsOf (if a.has 'n' then "root\n" else "0\n"))
  else write (octetsOf "uid=0(root) gid=0(root) groups=0(root)\n")
  return 0

/-- Telling the name of the system. -/
def uname : Tool := fun c => do
  let a ← arguments ⟨"asnrvmpio", [("all", 'a'), ("kernel-name", 's'), ("sysname", 's'),
    ("nodename", 'n'), ("kernel-release", 'r'), ("release", 'r'), ("kernel-version", 'v'),
    ("machine", 'm'), ("processor", 'p'), ("hardware-platform", 'i'), ("operating-system", 'o')],
    true, 1⟩ c
  write (octetsOf (if a.has 'm' then "x86_64\n"
    else if a.has 'o' then "GNU/Linux\n" else "Linux\n"))
  return 0

/-! ### Refusals -/

/-- Saying that a file cannot be found, where options are letters before it. -/
def missFile (code : Nat) (before : String) (quoted : Bool) (behind : String) : Tool := fun c => do
  let name := c.args.getLast?.getD []
  let shown := if quoted then quoteIfNeeded name else name
  failWith c code (octetsOf before ++ shown ++ octetsOf behind ++
    octetsOf ": No such file or directory")

/-- Saying that an operand is missing behind one. -/
def missOperand (message : String) : Tool := fun c =>
  failUsage c 1 (octetsOf message ++ quoteText (c.args.getLast?.getD []))

/-- Writing diagnostics under a name of the tool's own. -/
def sayAs (code : Nat) (before behind : String) : Tool := fun c => do
  complain (octetsOf before ++ c.args.getLast?.getD [] ++ octetsOf behind)
  return code

/-- Adding up the sizes of files, of which there are none. -/
def du : Tool := fun c => do
  let a ← arguments ⟨"0abd:chHklmst:xB:DLPSX:", [("all", 'a'), ("summarize", 's'), ("total", 'c')], true,
    1⟩ c
  let names := if a.operands.isEmpty then [['.']] else a.operands
  let code ← forEach names fun n => do
    if ← isThere n then return true
    else do
      say c (octetsOf "cannot access " ++ quoteAlways n ++ octetsOf ": No such file or directory")
      return false
  if a.has 'c' then write "0\ttotal\n".toList
  return code

/-- Comparing files, which takes two of them. -/
def diff : Tool := fun c => do
  let operands := c.args.filter (·.head? ≠ some '-')
  match operands with
  | [p, q] => do
      match ← readSource p, ← readSource q with
      | .ok x, .ok y => return if x = y then 0 else 1
      | .error e, _ => failWith c 2 (p ++ octetsOf ": " ++ octetsOf e)
      | _, .error e => failWith c 2 (q ++ octetsOf ": " ++ octetsOf e)
  | operands => do
      say c (octetsOf "missing operand after " ++
        quoteAlways (operands.getLast?.getD c.name))
      say c (octetsOf "Try '" ++ c.name ++ octetsOf " --help' for more information.")
      return 2

/-- The tools by their names. -/
def others : List (String × Tool) :=
  let sums := ["b2sum", "cksum", "md5sum", "sha1sum", "sha224sum", "sha256sum", "sha384sum",
    "sha512sum"].map fun n => (n, missFile 1 "" true "")
  let diffs := ["diff3", "sdiff"].map fun n => (n, refuse 2)
  let guards := ["nice", "nohup", "stdbuf", "timeout", "setsid"].map fun n => (n, refuse 125)
  sums ++ diffs ++ guards ++
    [("test", test false), ("[", test true), ("id", identity), ("uname", uname), ("du", du),
      ("diff", diff),
      ("whoami", tell "root" 0 1), ("arch", tell "x86_64" 0 1), ("groups", tell "root" 0 1),
      ("tty", tell "not a tty" 1 2), ("logname", fun c =>
        if c.args.isEmpty then failWith c 1 (octetsOf "no login name") else refuse 1 c),
      ("chgrp", missOperand "missing operand after "),
      ("chown", missOperand "missing operand after "),
      ("install", missOperand "missing destination file operand after "),
      ("dircolors", missFile 1 "" true ""),
      ("fmt", fun c => failWith c 1 (octetsOf "cannot open " ++
        quoteAlways (c.args.getLast?.getD []) ++
        octetsOf " for reading: No such file or directory")),
      ("pr", missFile 1 "" true ""),
      ("runcon", fun c => failWith c 125 (c.name ++
        octetsOf " may be used only on a SELinux kernel")),
      ("stat", fun c => failUsage c 1 (octetsOf "missing operand")),
      ("truncate", fun c =>
        failUsage c 1 (octetsOf "you must specify either '--size' or '--reference'")),
      ("stty", fun c => failUsage c 1 (octetsOf "invalid argument " ++ quoteText (c.args.headD []))),
      ("mawk", sayFirst "mawk: not an option: "),
      ("gzip", sayAs 1 "gzip: " ": No such file or directory"),
      ("gunzip", sayAs 1 "gzip: " ".gz: No such file or directory"),
      ("zcat", sayAs 1 "gzip: " ".gz: No such file or directory"),
      ("more", sayAs 0 "more: cannot open " ": No such file or directory"),
      ("perl", sayAs 2 "Can't open perl script \"" "\": No such file or directory"),
      ("getopt", fun c => do
        say c (octetsOf "invalid option -- 'c'")
        complain (octetsOf "Try 'getopt --help' for more information.")
        return 2),
      ("iconv", fun c => failWith c 1 (octetsOf "cannot open input file `" ++
        c.args.getLast?.getD [] ++ octetsOf "': No such file or directory")),
      ("locale", fun c => failWith c 1 (octetsOf "unknown name \"" ++ c.args.getLast?.getD [] ++
        ['"']))]
where
  /-- Refusing the first argument. -/
  sayFirst (before : String) : Tool := fun c => do
    complain (octetsOf before ++ c.args.headD [])
    return 2

end Tool

end Script

end LineShell
