import LineShell.Script.Reader
import LineShell.Script.Simple

/-!
# Running scripts

What the commands of a script do. What is nested in a command is run by a `Runner` of a lower depth;
a script that is nested more deeply than the depth allows ends its shell as a process ends that has no
room left.

Main statement: `runLinks_nil`, by which nothing is done where there is nothing to do.
-/

namespace LineShell

namespace Script

namespace Evaluate

/-! ### Loops -/

/-- Doing something of which only the outcome is looked at. -/
def tested (a : Action Unit) : Action Unit := do
  let old := (← Action.shell).isTested
  Action.changeShell fun sh => { sh with isTested := true }
  let result ← Action.attempt a
  Action.changeShell fun sh => { sh with isTested := old }
  match result with
  | .ok _ => pure ()
  | .error s => throw s

/-- A turn of a loop; whether there is another one. -/
def turn (a : Action Bool) : Action Bool := do
  match ← Action.attempt a with
  | .ok goesOn => return goesOn
  | .error (.leave (n + 2) again) => throw (.leave (n + 1) again)
  | .error (.leave _ again) => return again
  | .error s => throw s

/-- Doing something as a loop. -/
def inLoop (a : Action Unit) : Action Unit := do
  let old := (← Action.shell).loops
  Action.changeShell fun sh => { sh with loops := old + 1 }
  let result ← Action.attempt a
  Action.changeShell fun sh => { sh with loops := old }
  match result with
  | .ok _ => pure ()
  | .error s => throw s

/-- How often a loop may go on. One that goes on for longer ends when nobody reads its output. -/
def maxTurns : Nat := 200000

/-- Running a script as long as another has the outcome that is asked for. The code is that of the
last turn. -/
def loopFrom (r : Runner) (succeeding : Bool) (condition body : List Item) :
    Nat → Nat → Action Unit
  | 0, _ => throw (.killed Action.pipeSignal)
  | n + 1, code => do
      let goesOn ← turn (do
        tested (r.run condition)
        if ((← Action.shell).code == 0) != succeeding then
          Action.setCode code
          return false
        else
          r.run body
          return true)
      if goesOn then loopFrom r succeeding condition body n (← Action.shell).code else pure ()

/-- Running a script for values of a variable. -/
def eachFrom (r : Runner) (name : Octets) (trace : Octets) (body : List Item) :
    List Octets → Action Unit
  | [] => pure ()
  | v :: vs => do
      let goesOn ← turn (do
        if ← Action.isExtended then Trace.put trace
        Action.setText name v
        r.run body
        return true)
      if goesOn then eachFrom r name trace body vs else pure ()

/-- Running a script once for each value of a variable. -/
def each (r : Runner) (line : Nat) (name : Octets) (values : Option (List Word))
    (body : List Item) : Action Unit := do
  Action.changeShell fun sh => { sh with line := line }
  let vs ← match values with
    | some ws => Expand.fieldsOfWords r ws
    | none => do pure (← Action.shell).arguments
  if !isName name then
    Action.complain (octetsOf "`" ++ name ++ octetsOf "': not a valid identifier")
    Action.setCode 1
  else
    let shown := match values with
      | some ws => joined (ws.map Redirect.writtenText)
      | none => octetsOf "\"$@\""
    let trace := octetsOf "for " ++ name ++ octetsOf " in " ++ shown
    Action.setCode 0
    inLoop (eachFrom r name trace body vs)

/-- The value of an expression of a command, if it has one. -/
def commandValue? (r : Runner) (w : Word) : Action (Option Int) := do
  let cs ← Expand.text r.toEngine w
  let trimmed := ((cs.dropWhile isSpace).reverse.dropWhile isSpace).reverse
  Trace.put (octetsOf "(( " ++ trimmed ++ octetsOf " ))")
  let result : Except Octets Int ← (Calculation.evaluate cs).run
  match result with
  | .ok n => return some n
  | .error message => do
      Action.complain (octetsOf "((: " ++ message)
      return none

/-- The value of an expression that may be missing, which then counts as one. -/
def stepValue? (r : Runner) (w : Word) : Action (Option Int) := do
  let isBlankWord := match Word.bareText? w with
    | some cs => cs.all isSpace
    | none => false
  if isBlankWord then return some 1 else commandValue? r w

/-- Running a script as long as an expression is not zero. -/
def countFrom (r : Runner) (condition step : Word) (body : List Item) : Nat → Action Unit
  | 0 => throw (.killed Action.pipeSignal)
  | n + 1 => do
      match ← stepValue? r condition with
      | none => Action.setCode 1
      | some 0 => pure ()
      | some _ => do
          let goesOn ← turn (do
            r.run body
            return true)
          if goesOn then match ← stepValue? r step with
            | none => Action.setCode 1
            | some _ => countFrom r condition step body n

/-- A loop that counts. -/
def count (r : Runner) (line : Nat) (start condition step : Word) (body : List Item) :
    Action Unit := do
  Action.changeShell fun sh => { sh with line := line }
  match ← stepValue? r start with
  | none => Action.setCode 1
  | some _ => do
      Action.setCode 0
      inLoop (countFrom r condition step body maxTurns)

/-! ### Choices -/

/-- Whether a text fits one of patterns. -/
def fitsOne (r : Runner) (cs : Octets) : List Word → Action Bool
  | [] => return false
  | w :: ws => do
      let folded ← Action.hasSetting "nocasematch"
      let gs := (← r.fields ⟨false, false⟩ (← Expand.tilde w) .none).allGlyphs
      let lower (c : Char) : Char := if folded then c.toLower else c
      let gs := gs.map fun g => { g with octet := lower g.octet }
      if fits (marksOf gs) (cs.map lower) then return true else fitsOne r cs ws

/-- Running the scripts whose patterns a text fits. The flag tells whether the next one is run in any
case. -/
def casesFrom (r : Runner) (cs : Octets) : Bool → List Clause → Action Unit
  | _, [] => pure ()
  | always, .clause patterns body mark :: rest => do
      let chosen ← if always then pure true else fitsOne r cs patterns
      if chosen then
        if body.isEmpty then Action.setCode 0 else r.run body
        if mark = ";&".toList then casesFrom r cs true rest
        else if mark = ";;&".toList then casesFrom r cs false rest
        else pure ()
      else casesFrom r cs false rest

/-- Choosing scripts by patterns. -/
def cases (r : Runner) (line : Nat) (subject : Word) (clauses : List Clause) : Action Unit := do
  Action.changeShell fun sh => { sh with line := line, outputCode := 0 }
  if ← Action.isExtended then
    Trace.put (octetsOf "case " ++ Redirect.writtenText subject ++ octetsOf " in")
  let cs ← Expand.wholeText r subject
  Action.setCode (← Action.shell).outputCode
  Action.setCode 0
  casesFrom r cs false clauses

/-! ### Commands -/

/-- The name under which the shell speaks in a function that is made now. -/
def functionSpeaker (sh : Shell) : Octets :=
  if sh.sources = 0 && sh.flags.contains 'c' then "environment".toList else sh.speaker

/-- Making a function. -/
def define (name : Octets) (body : Stage) : Action Unit := do
  Action.changeShell fun sh =>
    { sh with functions := setIn name ⟨body, functionSpeaker sh⟩ sh.functions, code := 0 }

/-- Running a command that is no simple one. -/
def runCommand (r : Runner) : Command → Action Unit
  | .simple line ws => Simple.run r line ws []
  | .group script => Action.inCopy (Expand.atEnd r.toEngine) (r.run script)
  | .braces script => r.run script
  | .choice condition body otherwise => do
      tested (r.run condition)
      if (← Action.shell).code = 0 then r.run body
      else if otherwise.isEmpty then Action.setCode 0
      else r.run otherwise
  | .loop succeeding condition body => inLoop (loopFrom r succeeding condition body maxTurns 0)
  | .each line name values body => each r line name values body
  | .count line start condition step body => count r line start condition step body
  | .cases line subject clauses => cases r line subject clauses
  | .define _ name body => define name body
  | .calculate line w => do
      Action.changeShell fun sh => { sh with line := line }
      let n ← commandValue? r w
      Action.setCode (if n.getD 0 = 0 then 1 else 0)
  | .test line t => do
      Action.changeShell fun sh => { sh with line := line }
      Action.setCode (← Test.holds r t)

/-- Running a stage of a pipeline. -/
def runStage (r : Runner) : Stage → Action Unit
  | .stage (.simple line ws) rs => Simple.run r line ws rs
  | .stage c rs => do
      let failed : Action Unit := do Action.setCode (← Redirect.failCode)
      Redirect.within r rs (runCommand r c) failed

/-! ### Pipelines -/

/-- Running a stage in a copy of the shell, with channels for its input and its output. -/
def runInCopy (r : Runner) (input output : Option Nat) (a : Action Unit) : Action Nat := do
  Action.inCopy (Expand.atEnd r.toEngine) (do
    match input with
    | some i => Redirect.assign 0 i
    | none => pure ()
    match output with
    | some i => Redirect.assign 1 i
    | none => pure ()
    a)
  return (← Action.shell).code

/-- Running the stages of a pipeline, each on what the one before wrote; their outcomes. -/
def runStages (r : Runner) : Option Nat → List Stage → Action (List Nat)
  | _, [] => return []
  | input, [s] => do return [← runInCopy r input none (runStage r s)]
  | input, s :: ss => do
      let i ← Action.addChannel (.sink [])
      let code ← runInCopy r input (some i) (runStage r s)
      let next ← Action.addChannel (.source (← Action.collected i))
      Action.setChannel i .device
      return code :: (← runStages r (some next) ss)

/-- The outcome of a pipeline. -/
def pipelineCode (fails : Bool) (codes : List Nat) : Nat :=
  let last := codes.getLastD 0
  if fails && last = 0 then (codes.reverse.find? (· != 0)).getD 0 else last

/-- Running a pipeline. -/
def runPipeline (r : Runner) (stages : List Stage) : Action Unit := do
  let codes ← match stages with
    | [] => do
        Action.setCode 0
        pure [0]
    | [s] => do
        runStage r s
        pure [(← Action.shell).code]
    | ss => runStages r none ss
  Action.setCode (pipelineCode (← Action.hasSetting "pipefail") codes)
  if ← Action.isExtended then
    let entries := codes.mapIdx fun i c => (i, Numeral.digits c)
    Action.putVariable "PIPESTATUS".toList
      { Assignment.unset with value := some (.list entries) }

/-- Whether a failure of a pipeline may end the shell. -/
def isWatched (d : Dialect) : List Stage → Bool
  | [.stage c _] => match c with
    | .simple .. => true
    | .group _ => true
    | .calculate .. => d = .extended
    | .test .. => d = .extended
    | _ => false
  | _ => true

/-- What a failure leads to, where it is not only looked at. -/
def afterFailure (r : Runner) : Action Unit := do
  let sh ← Action.shell
  if sh.dialect = .extended && sh.hidden.isEmpty then
    match sh.traps.lookup "ERR".toList with
    | some text => do
        Action.changeShell fun sh => { sh with traps := removeFrom "ERR".toList sh.traps }
        r.runText text
        Action.changeShell fun now => { now with traps := sh.traps, code := sh.code }
    | none => pure ()
  if sh.flags.contains 'e' then throw (.finish sh.code)

/-- The times of a pipeline. -/
def timesText : Octets := octetsOf "\nreal\t0m0.000s\nuser\t0m0.000s\nsys\t0m0.000s\n"

/-- Running a pipeline with what it depends on. The flag tells whether another one depends on it. -/
def runLink (r : Runner) (hasNext : Bool) : Link → Action Unit
  | .link after timed negated stages => do
      let code := (← Action.shell).code
      if after.any (· != (code == 0)) || (← Action.hasFlag 'n') then pure ()
      else
        if negated || hasNext then tested (runPipeline r stages) else runPipeline r stages
        if timed then Action.put 2 timesText
        if negated then Action.setCode (if (← Action.shell).code = 0 then 1 else 0)
        Builtin.receiveAll r
        let sh ← Action.shell
        if sh.code != 0 && !negated && !hasNext && !sh.isTested && isWatched sh.dialect stages then
          afterFailure r

/-- Running pipelines as far as the outcomes before them ask for it. -/
def runLinks (r : Runner) : List Link → Action Unit
  | [] => pure ()
  | l :: ls => do
      runLink r (!ls.isEmpty) l
      runLinks r ls

/-- Nothing is done where there is nothing to do. -/
theorem runLinks_nil (r : Runner) : runLinks r [] = pure () := rfl

/-- The number of the first process beside the shell. -/
def firstChild : Nat := 4243

/-- Running an item. What would run beside the rest is run at once. -/
def runItem (r : Runner) : Item → Action Unit
  | .item false links => runLinks r links
  | .item true links => do
      if ← Action.hasFlag 'n' then pure ()
      else
        let i ← Action.addChannel .device
        let code ← runInCopy r (some i) none (runLinks r links)
        let count := (← Action.shell).children.length
        Action.changeShell fun sh =>
          { sh with children := (firstChild + count, code) :: sh.children, code := 0 }
        Builtin.receiveAll r

/-- Running items. -/
def runItems (r : Runner) : List Item → Action Unit
  | [] => pure ()
  | i :: is => do
      runItem r i
      runItems r is

/-! ### Texts -/

/-- What stands before a diagnostic on a text that cannot be read. -/
def syntaxOpening (sh : Shell) (line : Nat) : Octets :=
  match sh.dialect with
  | .plain => Action.opening { sh with line := line }
  | .extended =>
      sh.speaker ++ octetsOf ": " ++
        (if sh.origin.isEmpty then [] else octetsOf sh.origin ++ octetsOf ": ") ++
        octetsOf "line " ++ Numeral.digits line ++ octetsOf ": "

/-- The code for a text that cannot be read in the extended dialect. -/
def refusalCode (e : SyntaxError) : Nat :=
  if e.isNested then 127
  else match e.fault with
    | .openList => 1
    | _ => 2

/-- Saying why a text cannot be read; the common shell ends. -/
def refuseText (e : SyntaxError) : Action Unit := do
  let sh ← Action.shell
  let opening := syntaxOpening sh e.line
  match sh.dialect with
  | .plain => do
      Action.put 2 (opening ++ octetsOf ("Syntax error: " ++ e.fault.plainMessage) ++ ['\n'])
      throw (.finish 2)
  | .extended => do
      e.fault.earlierMessages.forM fun (line, m) =>
        Action.put 2 (syntaxOpening sh line ++ octetsOf m ++ ['\n'])
      e.fault.extendedMessages.forM fun m => Action.put 2 (opening ++ octetsOf m ++ ['\n'])
      if e.fault.showsLine then
        Action.put 2 (opening ++ octetsOf "`" ++ e.lineText ++ octetsOf "'\n")
      Action.setCode (refusalCode e)

/-- Writing what is to be said about a text. -/
def warn (warnings : List (Nat × String)) : Action Unit := do
  let sh ← Action.shell
  if sh.dialect = .extended then
    warnings.forM fun (line, m) =>
      Action.put 2 (Action.opening { sh with line := line } ++ octetsOf ("warning: " ++ m) ++ ['\n'])

/-- Running a line; where the rest of it is left out, the extended shell goes on with the next one,
and a copy of it ends. -/
def runLine (r : Runner) (is : List Item) : Action Unit := do
  match ← Action.attempt (runItems r is) with
  | .ok _ => pure ()
  | .error (.abandon code) => do
      if (← Action.shell).isCopy then throw (.finish code) else Action.setCode code
  | .error s => throw s

/-- Running the lines of a source. The number bounds them. -/
def runLines (r : Runner) : Nat → Source → Action Unit
  | 0, _ => pure ()
  | n + 1, s => match readLine s with
    | .error e => do
        warn s.warnings
        refuseText e
    | .ok (none, _) => pure ()
    | .ok (some is, rest) => do
        warn rest.warnings
        let sh ← Action.shell
        if sh.flags.contains 'v' && sh.dialect = .extended then
          Action.put 2 (s.rest.take (s.rest.length - rest.rest.length))
        runLine r is
        runLines r n { rest with warnings := [] }

/-- Running a text. The common shell counts its lines from one on, the extended one goes on
counting. -/
def runText (r : Runner) (cs : Octets) : Action Unit := do
  let sh ← Action.shell
  let line := match sh.dialect with
    | .plain => 1
    | .extended => sh.line
  runLines r (cs.length + 2) (Source.ofText sh.dialect line cs)

/-! ### Shells -/

/-- The variables with which a shell begins, given those that it sees and its working directory. -/
def firstVariables (d : Dialect) (environment : List (Octets × Octets))
    (working : List String) : Variables :=
  let seen := environment.map fun (name, cs) => (name, Variable.ofExported cs)
  let given (l : List (String × Variable)) : Variables :=
    l.map fun (name, v) => (name.toList, v)
  let level := ((environment.lookup "SHLVL".toList).bind Builtin.plainNumber?).getD 0 + 1
  let own := match d with
    | .plain => given [("IFS", .ofText " \t\n".toList), ("OPTIND", .ofText ['1']),
        ("PPID", .ofText "4241".toList), ("PS1", .ofText "# ".toList),
        ("PS2", .ofText "> ".toList), ("PS4", .ofText "+ ".toList)]
    | .extended => given [("IFS", .ofText " \t\n".toList), ("OPTIND", .ofText ['1']),
        ("OPTERR", .ofText ['1']), ("PPID", .ofText "4241".toList),
        ("PS4", .ofText "+ ".toList), ("UID", .ofText ['0']), ("EUID", .ofText ['0']),
        ("SHLVL", .ofExported (Numeral.digits level)),
        ("BASH", .ofText "/bin/bash".toList),
        ("BASH_VERSION", .ofText "5.2.15(1)-release".toList),
        ("HOSTTYPE", .ofText "x86_64".toList), ("MACHTYPE", .ofText "x86_64-pc-linux-gnu".toList),
        ("OSTYPE", .ofText "linux-gnu".toList), ("SHELL", .ofText "/bin/bash".toList),
        ("TERM", .ofText "dumb".toList), ("OLDPWD", { Assignment.unset with exported := true })]
  let own := own ++ [("PWD".toList, .ofExported (Tool.absolute working))]
  seen.foldl (fun vs (name, v) =>
    if name = "SHLVL".toList && d = .extended then vs
    else if ["IFS".toList, "OPTIND".toList, "PPID".toList].contains name then vs
    else setIn name v vs) own

/-- Doing what is to be done at the end of a shell; its code. -/
def finishWith (r : Runner) (code : Nat) : Action (Except Nat Nat) := do
  Action.setCode code
  match ← Action.attempt (Expand.atEnd r.toEngine) with
  | .error (.finish other) => return .ok (other % 256)
  | .error (.killed signal) => return .error signal
  | _ => return .ok (code % 256)

/-- Running a text as a shell of its own; its code, or the signal that has ended it. -/
def runShell (r : Runner) (d : Dialect) (c : Call) (flags : List Char) (settings : List String)
    (text : Octets) : Action (Except Nat Nat) := do
  let old ← get
  let working := old.disk.working
  let vars := firstVariables d c.environment working
  let origin := if d = .extended && flags.contains 'c' then "-c" else ""
  let shell := Shell.start d c.name origin vars c.args old.shell.streams flags settings
  set { old with shell := shell, signals := [] }
  let result ← match ← Action.attempt (runText r text) with
    | .ok _ => do finishWith r (← Action.shell).code
    | .error (.finish code) => finishWith r code
    | .error (.back code) => finishWith r code
    | .error (.abandon code) => finishWith r code
    | .error (.leave _ _) => do finishWith r (← Action.shell).code
    | .error (.killed signal) => pure (.error signal)
  modify fun m => { m with
    shell := old.shell
    signals := old.signals
    disk := { m.disk with working := working } }
  return result

/-- What is said about a process that a signal has ended. -/
def signalText? (n : Nat) : Option String :=
  [(1, "Hangup"), (3, "Quit"), (4, "Illegal instruction"), (5, "Trace/breakpoint trap"),
    (6, "Aborted"), (7, "Bus error"), (8, "Floating point exception"), (9, "Killed"),
    (10, "User defined signal 1"), (11, "Segmentation fault"), (12, "User defined signal 2"),
    (14, "Alarm clock"), (15, "Terminated")].lookup n

/-- Running a text as a shell that a shell has started. -/
def runInnerShell (r : Runner) (d : Dialect) (c : Call) (flags : List Char)
    (settings : List String) (text : Octets) : Action Nat := do
  match ← runShell r d c flags settings text with
  | .ok code => return code
  | .error signal => do
      match signalText? signal with
      | some m => Action.putError m
      | none => pure ()
      return 128 + signal

/-- What runs scripts and programs that are nested at most as deeply as a number says. -/
def runner : Nat → Runner
  | 0 =>
      { run := fun _ => throw (.killed 11)
        runText := fun _ => throw (.killed 11)
        fields := fun _ _ _ => throw (.killed 11)
        shell := fun _ _ _ _ _ => throw (.killed 11)
        call := fun _ _ => throw (.killed 11) }
  | n + 1 =>
      { run := fun is => runItems (runner n) is
        runText := fun cs => runText (runner n) cs
        fields := fun m w f => Expand.parts (runner n).toEngine m w f
        shell := fun d c flags settings text => runInnerShell (runner n) d c flags settings text
        call := fun tool c => Process.run (runner n) tool c }

/-- How deeply scripts may be nested. -/
def maxDepth : Nat := 1000

end Evaluate

end Script

end LineShell
