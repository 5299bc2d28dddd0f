import LineShell.Script.Expand
import LineShell.Script.Invocation
import LineShell.Script.Tool.Named

/-!
# Programs

A program is a tool, a shell, or a program that runs another one. It works in the place of a stream
of the shell that starts it, and sees the variables that are meant for it.

What runs scripts and programs is a `Runner`.
-/

namespace LineShell

namespace Script

/-- What runs scripts and programs. -/
structure Runner extends Engine where
  /-- Runs a text as a shell of a dialect, which is another process, with the letters and the names of
  settings that are on. The name and the arguments of the call are those of the shell. -/
  shell : Dialect → Call → List Char → List String → Octets → Action Nat
  /-- Runs the program of a call by its tool. -/
  call : String → Call → Action Nat

namespace Process

/-! ### Tools -/

/-- The size of the file that a stream reads from, if it is one. -/
def fileSize? (stream : Nat) : Action (Option Nat) := do
  match ← Action.channelNumber? stream with
  | none => return none
  | some i => match (← get).channels[i]? with
    | some (.file place ..) => return some (← Action.fileOctets place).length
    | _ => return none

/-- Running a tool on the streams of the shell. What it reads nobody else will read; where its output
cannot be written it says so and fails. -/
def runTool (t : Tool) (c : Call) : Action Nat := do
  let input ← Action.streamRest 0
  let size ← fileSize? 0
  let (result, place) := (t c).run ⟨← Action.disk, input, size, []⟩
  Action.setDisk place.disk
  match ← Action.channelNumber? 0 with
  | some i => Action.advance i (input.length - place.input.length)
  | none => pure ()
  let isWritten ← place.written.reverse.mapM fun (stream, cs) =>
    if cs.isEmpty then pure true else Action.write stream cs
  let code := match result with
    | .ok n => n
    | .error n => n
  if isWritten.all id then return code
  else
    Action.put 2 (c.name ++ octetsOf ": write error: Bad file descriptor\n")
    return if code = 0 then 1 else code

/-! ### Finding programs -/

/-- What is found under the name of a command. -/
inductive Found where
  /-- A program: its tool, and the path under which it was found. -/
  | program (tool : String) (path : Octets)
  /-- Something that cannot be run. -/
  | notProgram (isDirectory : Bool)
  /-- Nothing, for a reason. -/
  | nothing (f : Disk.Fault)
deriving Repr

/-- What is at a path. -/
def foundAt (d : Disk) (path : Octets) : Found :=
  match d.findText (String.ofList (textOf path)) with
  | .ok (.program tool) => .program tool path
  | .ok (.directory _) => .notProgram true
  | .ok _ => .notProgram false
  | .error f => .nothing f

/-- The first program of a name in directories. -/
def foundIn (d : Disk) (name : Octets) : List Octets → Found
  | [] => .nothing .notFound
  | p :: ps =>
      let path := if p.isEmpty then name
        else if p.getLast? = some '/' then p ++ name else p ++ '/' :: name
      match foundAt d path with
      | .program tool path => .program tool path
      | _ => foundIn d name ps

/-- What is found under a name, given the directories of programs. -/
def lookUp (d : Disk) (path name : Octets) : Found :=
  if name.contains '/' then foundAt d name
  else if name.isEmpty then .nothing .notFound
  else foundIn d name (path.splitOn ':')

/-- The directories of programs, for a call. -/
def pathOf (environment : List (Octets × Octets)) : Octets :=
  (environment.lookup (octetsOf "PATH")).getD (octetsOf "/bin:/usr/bin")

/-! ### Programs that run others -/

/-- Saying something about a fault of a program. -/
def say (c : Call) (message : Octets) : Action Unit :=
  Action.put 2 (c.name ++ octetsOf ": " ++ message ++ ['\n'])

/-- Running a command for a program; if it cannot be run, the program says so. -/
def launch (r : Runner) (c : Call) (quoted : Bool) (words : List Octets)
    (environment : List (Octets × Octets)) : Action Nat := do
  match words with
  | [] => return 0
  | name :: args => do
      let shown := if quoted then Tool.quoteAlways name else name
      match lookUp (← Action.disk) (pathOf environment) name with
      | .program tool _ => r.call tool ⟨name, args, environment⟩
      | .notProgram _ => do
          say c (shown ++ octetsOf ": Permission denied")
          return 126
      | .nothing .notADirectory => do
          say c (shown ++ octetsOf ": Not a directory")
          return 126
      | .nothing _ => do
          say c (shown ++ octetsOf ": No such file or directory")
          return 127

/-- Whether a word sets a variable. -/
def isSetting (w : Octets) : Bool := w.contains '=' && w.head? != some '='

/-- What a word sets. -/
def settingOf (w : Octets) : Octets × Octets :=
  let name := w.takeWhile (· != '=')
  (name, w.drop (name.length + 1))

/-- The options for running a command with other variables. -/
def envRules : Tool.OptionRules :=
  ⟨"C:iS:u:v0βδιλ", [("ignore-environment", 'i'), ("null", '0'), ("unset", 'u'), ("chdir", 'C'),
    ("default-signal", 'δ'), ("ignore-signal", 'ι'), ("block-signal", 'β'),
    ("list-signal-handling", 'λ'), ("debug", 'v'), ("split-string", 'S')], false, 125⟩

/-- Running a command with other variables, or writing the variables. -/
def env (r : Runner) (c : Call) : Action Nat := do
  match Tool.readOptions envRules c.args with
  | .error _ => runTool (Tool.refuse 125) c
  | .ok a => do
      let operands := if a.operands.head? = some ['-'] then a.operands.drop 1 else a.operands
      let start := if a.has 'i' || a.operands.head? = some ['-'] then [] else c.environment
      let removed := (a.options.filter (·.1 == 'u')).map Prod.snd
      let start := start.filter fun e => !removed.contains e.1
      let settings := operands.takeWhile isSetting
      let environment := settings.foldl (fun l w =>
        let (n, v) := settingOf w
        setIn n v l) start
      match operands.drop settings.length with
      | [] => do
          let finish := if a.has '0' then ['\x00'] else ['\n']
          Action.put 1 (environment.flatMap fun (n, v) => n ++ '=' :: v ++ finish)
          return 0
      | words => launch r c true words environment

/-- A word that is being read for a command: the words so far, the last first, the one at hand, and
the open quotation mark. -/
structure Items where
  /-- The words so far, the last first. -/
  words : List Octets
  /-- The word at hand. -/
  current : Option Octets
  /-- The open quotation mark, or a backslash. -/
  quote : Option Char

/-- The words of a text with quotation marks and backslashes. -/
def wordsOf (cs : Octets) : List Octets :=
  let last := cs.foldl step ⟨[], none, none⟩
  ((last.current.toList) ++ last.words).reverse
where
  /-- What an octet does. -/
  step (s : Items) (c : Char) : Items :=
    let add (c : Char) : Items := { s with current := some (s.current.getD [] ++ [c]) }
    match s.quote with
    | some '\\' => { add c with quote := none }
    | some q => if c = q then { s with quote := none } else add c
    | none =>
        if isSpace c then match s.current with
          | some w => ⟨w :: s.words, none, none⟩
          | none => s
        else if c = '\'' || c = '"' || c = '\\' then
          { s with current := some (s.current.getD []), quote := some c }
        else add c

/-- A list cut into pieces of a length. The number bounds the pieces. -/
def chunks (size : Nat) : Nat → List Octets → List (List Octets)
  | 0, _ => []
  | _, [] => []
  | n + 1, ws => ws.take size :: chunks size n (ws.drop size)

/-- A text with a mark replaced by another text. -/
def replaceMark (mark new : Octets) (cs : Octets) : Octets :=
  replaceFrom (mark.map .octet) new true cs.length cs

/-- The options for running a command on words of the input. -/
def xargsRules : Tool.OptionRules :=
  ⟨"0a:E:e::i::I:l::L:n:prs:txP:d:οσ:", [("null", '0'), ("arg-file", 'a'), ("delimiter", 'd'),
    ("eof", 'e'), ("replace", 'i'), ("max-lines", 'l'), ("max-args", 'n'), ("open-tty", 'ο'),
    ("interactive", 'p'), ("no-run-if-empty", 'r'), ("max-chars", 's'), ("verbose", 't'),
    ("show-limits", 'λ'), ("exit", 'x'), ("max-procs", 'P'), ("process-slot-var", 'σ'),
    ("version", Tool.versionLetter), ("help", Tool.manualLetter)], false, 1⟩

/-- Running a command on words of the input. -/
def xargs (r : Runner) (c : Call) : Action Nat := do
  match Tool.readOptions xargsRules c.args with
  | .error _ => runTool (Tool.refuse 1) c
  | .ok a => do
      let input ← Action.streamRest 0
      match ← Action.channelNumber? 0 with
      | some i => Action.advance i input.length
      | none => pure ()
      let command := if a.operands.isEmpty then [octetsOf "echo"] else a.operands
      let words : List Octets := if a.has '0' then
          let ws := input.splitOn '\x00'
          if ws.getLast? = some [] then ws.dropLast else ws
        else match a.value? 'd' with
          | some d => linesOf (input.map fun x => if [x] = d then '\n' else x)
          | none => if a.has 'I' then (linesOf input).map (·.dropWhile isBlank) else wordsOf input
      let commands := match a.value? 'I' with
        | some mark => (words.filter fun w : Octets => !w.isEmpty).map fun w => command.map (replaceMark mark w)
        | none => match ((a.value? 'n').bind Tool.number?).filter (0 < ·) with
          | some n => if words.isEmpty && !a.has 'r' then [command]
              else (chunks n words.length words).map (command ++ ·)
          | none => if words.isEmpty && a.has 'r' then [] else [command ++ words]
      let codes ← commands.mapM fun ws => launch r c false ws c.environment
      return if codes.any (· == 127) then 127 else if codes.any (· == 126) then 126
        else if codes.any (· == 255) then 124 else if codes.any (· != 0) then 123 else 0

/-- Running a command as it is, behind options and so many operands of a program. -/
def passOn (r : Runner) (letters : String) (skip : Nat) (c : Call) : Action Nat := do
  match Tool.readOptions ⟨letters, [], false, 125⟩ c.args with
  | .error _ => runTool (Tool.refuse 125) c
  | .ok a => match a.operands.drop skip with
    | [] => do
        say c (octetsOf "missing operand")
        Action.put 2 (octetsOf "Try '" ++ c.name ++ octetsOf " --help' for more information.\n")
        return 125
    | words => launch r c true words c.environment

/-! ### Shells -/

/-- Running a shell that has been called without a script on a file. -/
def runFile (r : Runner) (c : Call) (i : Invocation) (path : Octets) (args : List Octets) :
    Action Nat := do
  let missing := c.name ++ octetsOf ": " ++ path ++ octetsOf ": No such file or directory\n"
  match i.dialect, (← Action.disk).findText (String.ofList (textOf path)) with
  | d, .ok n => match Disk.bytesOf? n, d with
    | some bytes, _ =>
        r.shell d ⟨path, args, c.environment⟩ i.flags i.names (octetsOfBytes bytes)
    | none, .plain => return 0
    | none, .extended => do
        Action.put 2 (path ++ octetsOf ": " ++ path ++ octetsOf ": Is a directory\n")
        return 126
  | .plain, .error _ => do
      Action.put 2 (c.name ++ octetsOf ": 0: cannot open " ++ path ++ octetsOf ": No such file\n")
      return 2
  | .extended, .error _ => do
      Action.put 2 missing
      return 127

/-- Running a shell as a program. -/
def runShell (r : Runner) (d : Dialect) (c : Call) : Action Nat := do
  let refuse (f : Invocation.Fault) (i : Invocation) : Action Nat := do
    let (message, code) := Invocation.refusal f i c.name
    Action.put 2 message
    return code
  match Invocation.read d c.args with
  | .error (f, i) => do
      Action.put 1 i.written
      refuse f i
  | .ok i => do
      Action.put 1 i.written
      if i.readsInput then
        let text ← Action.streamRest 0
        match ← Action.channelNumber? 0 with
        | some k => Action.advance k text.length
        | none => pure ()
        r.shell d ⟨c.name, i.rest, c.environment⟩ i.flags i.names text
      else match i.isCommand, i.rest with
        | true, [] => refuse .noCommand i
        | true, text :: args =>
            r.shell d ⟨args.headD c.name, args.drop 1, c.environment⟩ i.flags i.names text
        | false, path :: args => runFile r c i path args
        | false, [] => return 0

/-- Running the program of a call by its tool. -/
def run (r : Runner) (tool : String) (c : Call) : Action Nat :=
  match tool with
  | "dash" => runShell r .plain c
  | "bash" => runShell r .extended c
  | "env" => env r c
  | "xargs" => xargs r c
  | "nice" => passOn r "n:" 0 c
  | "nohup" => passOn r "" 0 c
  | "setsid" => passOn r "" 0 c
  | "stdbuf" => passOn r "i:o:e:" 0 c
  | "timeout" => passOn r "k:s:v" 1 c
  | tool => runTool (Tool.named tool) c

end Process

end Script

end LineShell
