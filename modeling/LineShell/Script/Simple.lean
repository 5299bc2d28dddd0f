import LineShell.Script.Test

/-!
# Simple commands

A simple command sets variables, or it runs what its first word names: a function, a command of the
shell, or a program. Variables that are set in front of a command are set for its time only, unless the
common shell runs one of its special commands.

Main statement: `runSettings_nil`, by which a command that is nothing at all has the outcome of the last
script in its words.
-/

namespace LineShell

namespace Script

namespace Simple

/-! ### Words -/

/-- The commands that declare variables. -/
def declaring : Dialect → List String
  | .plain => ["export", "readonly", "local"]
  | .extended => ["export", "readonly", "local", "declare", "typeset"]

/-- Whether a word is one of names, as it is written. -/
def isOneOf (names : List String) (w : Word) : Bool :=
  (Word.bareText? w).any fun cs => names.contains (String.ofList cs)

/-- The fields of words, with what is declared where the command declares variables. -/
def fieldsOf (r : Runner) (ws : List Word) : Action (List Octets × Option (List Declared)) := do
  let d := (← Action.shell).dialect
  let ahead := ws.takeWhile (isOneOf ["command", "builtin"])
  match ws.drop ahead.length with
  | w :: rest =>
      if isOneOf (declaring d) w then
        let names ← Expand.fieldsOfWords r (ahead ++ [w])
        let ds := (← rest.mapM (Declared.ofWord r d)).flatten
        return (names ++ ds.map Declared.shown, some ds)
      else return (← Expand.fieldsOfWords r ws, none)
  | [] => return (← Expand.fieldsOfWords r ws, none)

/-- The settings in front of words, and the words. -/
def split (d : Dialect) : List Word → List Assignment × List Word
  | [] => ([], [])
  | w :: ws => match Assignment.ofWord? d w with
    | some a => ((a :: (split d ws).1), (split d ws).2)
    | none => ([], w :: ws)

/-! ### Settings -/

/-- Setting a variable; the setting as it is shown comes back. -/
def perform (r : Runner) (a : Assignment) : Action Octets := do
  let shownName := a.name ++ (if a.subscript.isEmpty then [] else
    '[' :: Redirect.writtenText a.subscript ++ [']']) ++ (if a.isAppended then ['+'] else [])
  match a.value with
  | [.elements ws] => do
      a.perform r
      return shownName ++ octetsOf "=(" ++ joined (ws.map Redirect.writtenText) ++ [')']
  | _ => do
      let cs ← a.text r
      ({ a with value := [.text true cs] } : Assignment).perform r
      let extended ← Action.isExtended
      return shownName ++ '=' :: (if extended && !cs.isEmpty then Trace.shown cs else cs)

/-- Setting variables; in the extended shell each setting is shown by itself. -/
def performAll (r : Runner) (settings : List Assignment) : Action (List Octets) := do
  settings.mapM fun a => do
    let s ← perform r a
    if ← Action.isExtended then Trace.put s
    return s

/-- Only setting variables, with redirections. -/
def runSettings (r : Runner) (settings : List Assignment) (rs : List Redirection) :
    Action Unit := do
  if ← Action.isExtended then
    let _ ← performAll r settings
    Redirect.within r rs (do Action.setCode (← Action.shell).outputCode) (Action.setCode 1)
  else
    let perform : Action Unit := do
      let shown ← performAll r settings
      if !shown.isEmpty then Trace.put (joined shown)
      Action.setCode (← Action.shell).outputCode
    Redirect.within r rs perform (Action.setCode 2)

/-- Putting variables back to what they were. -/
def restore (old : List (Octets × Option Variable)) : Action Unit :=
  old.forM fun (name, v) => match v with
    | some v => Action.putVariable name v
    | none => Action.removeVariable name

/-- Setting variables for the time of an action, so that programs see them. -/
def within (r : Runner) (settings : List Assignment) (a : List Octets → Action Unit) :
    Action Unit := do
  if settings.isEmpty then a []
  else
    let old ← settings.mapM fun s => do return (s.name, ← Action.variableNamed? s.name)
    let result ← Action.attempt (do
      let shown ← settings.mapM fun s => do
        let shown ← performExported s
        if ← Action.isExtended then Trace.put shown
        return shown
      a shown)
    restore old.reverse
    match result with
    | .ok _ => pure ()
    | .error s => throw s
where
  /-- Setting a variable that programs see; a constant one is left in the extended shell. -/
  performExported (s : Assignment) : Action Octets := do
    let isConstant := ((← Action.variableNamed? s.name).map Variable.constant).getD false
    if isConstant && (← Action.isExtended) then
      Action.complain (s.name ++ octetsOf ": readonly variable")
      return s.name
    else
      let shown ← perform r s
      match ← Action.variableNamed? s.name with
      | some v => Action.putVariable s.name { v with exported := true }
      | none => pure ()
      return shown

/-- A command that is nothing at all has the outcome of the last script in its words. -/
theorem runSettings_nil (r : Runner) :
    runSettings r [] [] = (do
      if ← Action.isExtended then Action.setCode (← Action.shell).outputCode
      else Action.setCode (← Action.shell).outputCode) := by
  rfl

/-! ### Programs -/

/-- Whether something that is no program stands under a name in one of directories. -/
def isShadowed (d : Disk) (path name : Octets) : Bool :=
  (path.splitOn ':').any fun p =>
    match Process.foundAt d (if p.isEmpty then name else p ++ '/' :: name) with
    | .notProgram _ => true
    | _ => false

/-- The diagnostic for a name under which no program is found, and the code. -/
def missing (sh : Shell) (d : Disk) (path name : Octets) (f : Process.Found) : Octets × Nat :=
  let hasSlash := name.contains '/'
  match sh.dialect with
  | .plain => match f with
    | .notProgram _ => (octetsOf "Permission denied", 126)
    | .nothing f =>
        if !hasSlash && isShadowed d path name then (octetsOf "Permission denied", 127)
        else match f with
          | .notFound => (octetsOf "not found", 127)
          | .notADirectory => (octetsOf "not found", 127)
          | f => (octetsOf (Tool.faultText f), 127)
    | .program .. => ([], 0)
  | .extended => match f with
    | .notProgram true => (octetsOf "Is a directory", 126)
    | .notProgram false => (octetsOf "Permission denied", 126)
    | .nothing f =>
        if hasSlash || path.isEmpty then
          let code := match f with
            | .notFound => 127
            | _ => 126
          (octetsOf (Tool.faultText f), code)
        else (octetsOf "command not found", 127)
    | .program .. => ([], 0)

/-- Running a program. -/
def runProgram (r : Runner) (name : Octets) (args : List Octets) : Action Unit := do
  let path ← Action.textOf "PATH"
  let d ← Action.disk
  match Process.lookUp d path name with
  | .program tool _ => do
      let code ← r.call tool ⟨name, args, ← Action.environment⟩
      Action.setCode code
  | f => do
      let sh ← Action.shell
      let (message, code) := missing sh d path name f
      let isEscaped := sh.dialect = .extended && !name.contains '/'
      let shown := if isEscaped then shownName name else name
      Action.complain (shown ++ octetsOf ": " ++ message)
      Action.setCode code

/-- Running a program in place of the shell. -/
def replaceShell (r : Runner) (name shownName : Octets) (args : List Octets) (isBare : Bool) :
    Action Unit := do
  let path ← Action.textOf "PATH"
  let d ← Action.disk
  match Process.lookUp d path name with
  | .program tool _ => do
      Action.changeShell fun sh => { sh with traps := [] }
      let environment ← if isBare then pure [] else Action.environment
      throw (.finish (← r.call tool ⟨shownName, args, environment⟩))
  | f => do
      let sh ← Action.shell
      let (message, code) := missing sh d path name f
      let isHere := (d.findText (String.ofList (textOf name))).toOption.any fun
        | .directory _ => true
        | _ => false
      let (message, code) := if message = octetsOf "command not found" then
          if isHere then (octetsOf "cannot execute: Is a directory", 126)
          else (octetsOf "not found", code)
        else if sh.dialect = .extended && code = 126 then
          (octetsOf "cannot execute: " ++ message, code)
        else if name.isEmpty then (message, 126)
        else (message, code)
      Action.complainOf "exec".toList (name ++ octetsOf ": " ++ message)
      throw (.finish code)

/-! ### Functions -/

/-- Calling a function. -/
def callFunction (r : Runner) (name : Octets) (f : Function) (args : List Octets) :
    Action Unit := do
  let old ← Action.shell
  let extended := old.dialect = .extended
  let top := if extended then
      [("FUNCNAME".toList, old.vars.lookup "FUNCNAME".toList)]
    else []
  Action.changeShell fun sh => { sh with
    arguments := args
    hidden := top :: sh.hidden
    loops := 0
    speaker := if extended then f.speaker else sh.speaker }
  if extended then Action.putVariable "FUNCNAME".toList (Variable.ofText name)
  let result ← Action.attempt (r.run [.item false [.link none false false [f.body]]])
  restore ((← Action.shell).hidden.headD [])
  Action.changeShell fun sh => { sh with
    arguments := old.arguments
    hidden := old.hidden
    loops := old.loops
    speaker := old.speaker }
  match result with
  | .ok _ => pure ()
  | .error (.back code) => Action.setCode code
  | .error s => throw s

/-! ### Commands of the shell -/

/-- A command of the shell by its name. -/
def builtin? (name : String) : Option Builtin :=
  match name with
  | ":" => some Builtin.succeed
  | "true" => some Builtin.succeed
  | "false" => some Builtin.failQuietly
  | "echo" => some Builtin.echo
  | "printf" => some Builtin.printf
  | "test" => some (Builtin.test false)
  | "[" => some (Builtin.test true)
  | "pwd" => some Builtin.pwd
  | "cd" => some Builtin.cd
  | "chdir" => some Builtin.cd
  | "set" => some Builtin.set
  | "shift" => some Builtin.shift
  | "shopt" => some Builtin.shopt
  | "unset" => some Builtin.unset
  | "let" => some Builtin.evaluateExpressions
  | "alias" => some Builtin.otherNames
  | "unalias" => some Builtin.removeNames
  | "read" => some Builtin.read
  | "mapfile" => some Builtin.readLines
  | "readarray" => some Builtin.readLines
  | "getopts" => some Builtin.getopts
  | "exit" => some Builtin.exit
  | "return" => some Builtin.leaveFunction
  | "break" => some (Builtin.leaveLoops false)
  | "continue" => some (Builtin.leaveLoops true)
  | "eval" => some Builtin.eval
  | "." => some Builtin.source
  | "source" => some Builtin.source
  | "trap" => some Builtin.trap
  | "kill" => some Builtin.kill
  | "wait" => some Builtin.wait
  | "jobs" => some Builtin.jobs
  | "fg" => some Builtin.resume
  | "bg" => some Builtin.resume
  | "times" => some Builtin.times
  | "umask" => some Builtin.umask
  | "ulimit" => some Builtin.ulimit
  | "type" => some Builtin.type
  | "hash" => some Builtin.hash
  | _ => none

/-- A command that declares variables by its name. -/
def declaration? (name : String) : Option Declaration :=
  match name with
  | "export" => some Builtin.exportVariables
  | "readonly" => some Builtin.readonly
  | "local" => some Builtin.localVariables
  | "declare" => some Builtin.declare
  | "typeset" => some Builtin.declare
  | _ => none

/-- Doing what a command of the shell does. In the common shell its name stands before diagnostics
meanwhile, and the shell ends where a special command fails. -/
def doDeed (name : Octets) (isSpecial : Bool) (a : Deed Nat) : Action Unit := do
  let sh ← Action.shell
  if sh.dialect = .plain then
    Action.changeShell fun sh => { sh with origin := String.ofList name }
  let result : Except Stop (Except Nat Nat) ← Action.attempt a.run
  Action.changeShell fun s => { s with origin := sh.origin }
  match result with
  | .ok (.ok code) => Action.setCode code
  | .ok (.error code) => if isSpecial then throw (.finish code) else Action.setCode code
  | .error s => throw s

/-- Running a command of the shell. -/
def runBuiltin (r : Runner) (isSpecial : Bool) (name : Octets) (args : List Octets)
    (declared : Option (List Declared)) : Action Unit := do
  let d := (← Action.shell).dialect
  let key := String.ofList name
  match declaration? key, builtin? key with
  | some f, _ =>
      let ds := declared.getD (args.map (Declared.ofField d))
      doDeed name isSpecial (f r name ds)
  | none, some f => doDeed name isSpecial (f r name args)
  | none, none => pure ()

/-- The options in front of what is run in place of the shell. -/
def execOptions (name : Octets) (args : List Octets) :
    Deed (List (Char × Octets) × List Octets) := do
  if ← Action.isExtended then Builtin.options name "cl" "a" args
  else return ([], if args.head? = some ['-', '-'] then args.drop 1 else args)

/-- Running a command in place of the shell. -/
def exec (r : Runner) (name : Octets) (args : List Octets) : Deed Nat := do
  let (os, operands) ← execOptions name args
  match operands with
  | [] => return 0
  | program :: rest => do
      replaceShell r program ((os.lookup 'a').getD program) rest (Builtin.has os 'c')
      return 0

/-- Running what the first of fields names: a function unless functions are left out, a command of the
shell, or a program unless only commands of the shell count. The number bounds the commands that run
others. -/
def dispatch (r : Runner) (declared : Option (List Declared)) :
    Nat → Bool → Bool → List Octets → Action Unit
  | 0, _, _, _ => pure ()
  | _, _, _, [] => pure ()
  | n + 1, isBare, isOwn, name :: args => do
      let sh ← Action.shell
      let isSpecial := !isBare && Builtin.isSpecial sh.dialect name
      match if isBare || isSpecial then none else sh.functions.lookup name with
      | some f => callFunction r name f args
      | none =>
          if !Builtin.isBuiltin sh.dialect name then
            if isOwn then
              Action.complainOf "builtin".toList (name ++ octetsOf ": not a shell builtin")
              Action.setCode 1
            else runProgram r name args
          else match String.ofList name with
            | "exec" => doDeed name isSpecial (exec r name args)
            | "builtin" => do
                Action.setCode 0
                dispatch r declared n true true args
            | "command" => do
                let result : Except Nat (List (Char × Octets) × List Octets) ←
                  (Builtin.options name "pvV" "" args).run
                match result with
                | .error code => Action.setCode code
                | .ok (os, operands) => do
                    Action.setCode 0
                    if Builtin.has os 'v' then doDeed name false (Builtin.locate operands)
                    else if Builtin.has os 'V' then
                      let names := if sh.dialect = .plain then operands.take 1 else operands
                      doDeed name false (Builtin.forEach (Builtin.describeName name) names)
                    else dispatch r declared n true false operands
            | _ => runBuiltin r isSpecial name args declared

/-! ### Simple commands -/

/-- Running fields with redirections. -/
def runFields (r : Runner) (fields : List Octets) (declared : Option (List Declared))
    (rs : List Redirection) : Action Unit := do
  let sh ← Action.shell
  let name := fields.headD []
  let isFunction := sh.functions.any fun f => f.1 == name
  let isSpecial := Builtin.isSpecial sh.dialect name
  let failed : Action Unit := do
    if isSpecial then throw (.finish 2) else Action.setCode (← Redirect.failCode)
  let operands := fields.drop 1
  let isExec := name = "exec".toList && (isSpecial || !isFunction) &&
    (operands.isEmpty || operands = [['-', '-']])
  if isExec then
    if ← Redirect.applyAll r rs then Action.setCode 0 else failed
  else
    Redirect.within r rs (dispatch r declared (fields.length + 1) false false fields) failed

/-- Showing the settings among what is exported or made constant. -/
def traceSettings (name : Octets) (args : List Octets) : Action Unit := do
  if name = "export".toList || name = "readonly".toList then
    args.forM fun a => do
      let key := a.takeWhile isNameChar
      match a.drop key.length with
      | '=' :: value => if isName key then Trace.put (key ++ '=' :: Trace.shown value)
      | _ => pure ()

/-- Running a simple command. -/
def run (r : Runner) (line : Nat) (ws : List Word) (rs : List Redirection) : Action Unit := do
  Action.changeShell fun sh => { sh with line := line, outputCode := 0 }
  let d := (← Action.shell).dialect
  let (settings, ws) := split d ws
  let (fields, declared) ← fieldsOf r ws
  match fields with
  | [] => runSettings r settings rs
  | name :: _ => do
      let trace (shown : List Octets) : Action Unit :=
        match d with
        | .plain => Trace.put (joined (shown ++ fields))
        | .extended => Trace.put (Trace.words d fields)
      if Builtin.isSpecial d name && name ≠ "exec".toList then
        let shown ← performAll r settings
        trace shown
        runFields r fields declared rs
      else
        within r settings fun shown => do
          trace shown
          if d = .extended then traceSettings name (fields.drop 1)
          runFields r fields declared rs

end Simple

end Script

end LineShell
