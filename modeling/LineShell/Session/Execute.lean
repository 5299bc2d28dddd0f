import LineShell.Segment
import LineShell.Session.Command

/-!
# Executing lines

A line is expanded against the history, echoed if that changed it, recorded, cut into segments, and
executed segment by segment as long as the operators between them admit it. A segment that an
operator does not admit ends the line.

The head of a segment is resolved through the aliases. If it is then a command of the shell, that is
run with the words that follow as arguments; if not, the segment goes to a child as it was typed,
but for its head. What goes wrong in a segment is written as a diagnostic and makes it fail; only an
interruption, and a child that the system refuses, end the line.

Main statements: `run_execute_of_resolve` and `run_execute_of_resolve_error`, by which a segment comes to
what the words of its head are dispatched to, or to the reason why it has none, and
`run_runCommand_of_run`, `run_runCommand_of_run_error` and `exists_run_of_run_runCommand`, by which
a command succeeds if it comes to an answer, and only then.
-/

namespace LineShell

namespace Session

/-- What is said where a command is not known. -/
def helpHint : String := "Use \"help\" to list available commands."

/-- The words that a command resolves to, given the aliases at hand. -/
def resolve (ws : List String) : Act (List String) := do
  let s ← Act.get
  Act.ofExcept .resolution (s.aliases.resolve s.maxPasses ws)

/-! ### External commands -/

/-- The diagnostics of a child that ended well, as they are written: not at all if blank. -/
def diagnosticsOf (c : Child) : List String :=
  if Text.isBlankText c.err then [] else [Text.dropFinalNewlines c.err]

/-- The output of a child, as it is written. -/
def outputOf (c : Child) : Reply := .text (Text.dropFinalNewlines c.out)

/-- What is reported of a child; whether it ended well. An interruption and a refusal are faults. -/
def reportChild : Except Fault Child → Act Bool
  | .ok c => do
      (outputOf c).write
      Act.writeErrAll (diagnosticsOf c)
      return true
  | .error (.child (.unknown word child)) => do
      Act.writeErrAll [(Child.Error.unknown word child).message, helpHint]
      return false
  | .error (.child (.failed word child)) => do
      (outputOf child).write
      Act.writeErr s!"Error: {(Child.Error.failed word child).message}"
      return false
  | .error e => Act.fail e

/-- Running a command line as a child; whether it ended well. -/
def runExternal (commandLine : String) : Act Bool := do
  reportChild (← (Act.runChild commandLine).attempt)

/-! ### Commands of the shell -/

/-- What is reported of a command that has run; whether it succeeded. -/
def reportCommand (name : String) : Except Fault Reply → Act Bool
  | .ok r => do
      r.write
      return true
  | .error e =>
      if e.isInterrupt then Act.fail e
      else do
        Act.note (.commandFailed name)
        Act.writeErr s!"Error: {e.message}"
        return false

/-- Running a command of the shell; whether it succeeded. -/
def runCommand (cs : Commands) (name : String) (c : Command) (args : List String) : Act Bool := do
  reportCommand name (← (c.run cs.catalogue args).attempt)

/-- A command that comes to an answer succeeds, and the answer is written behind what it did. -/
theorem run_runCommand_of_run (cs : Commands) (name : String) {command : Command} {args : List String}
    {c : Context} {s t : Store} {r : Reply} {es : List Event}
    (h : (command.run cs.catalogue args).run c s = ⟨.ok r, t, es⟩) :
    (runCommand cs name command args).run c s = ⟨.ok true, t, es ++ r.texts.map .out⟩ := by
  simp [runCommand, reportCommand, Except.map, h]

/-- A command that ends with a fault fails, unless it is interrupted, and the fault is written. -/
theorem run_runCommand_of_run_error {cs : Commands} {name : String} {command : Command}
    {args : List String} {c : Context} {s t : Store} {es : List Event} {e : Fault}
    (he : e.isInterrupt = false) (h : (command.run cs.catalogue args).run c s = ⟨.error e, t, es⟩) :
    (runCommand cs name command args).run c s =
      ⟨.ok false, t, es ++ [.note (.commandFailed name), .err s!"Error: {e.message}"]⟩ := by
  simp [runCommand, reportCommand, h, he, Except.map]

/-- A command that succeeds has come to an answer. -/
theorem exists_run_of_run_runCommand {cs : Commands} {name : String} {command : Command}
    {args : List String} {c : Context} {s t : Store} {es : List Event}
    (h : (runCommand cs name command args).run c s = ⟨.ok true, t, es⟩) :
    ∃ r written, (command.run cs.catalogue args).run c s = ⟨.ok r, t, written⟩ ∧
      es = written ++ r.texts.map .out := by
  rcases hrun : (command.run cs.catalogue args).run c s with ⟨result, s', written⟩
  cases result with
  | error e =>
      by_cases he : e.isInterrupt = true
      · simp [runCommand, reportCommand, hrun, he] at h
      · rw [run_runCommand_of_run_error (eq_false_of_ne_true he) hrun] at h
        cases h
  | ok r =>
      rw [run_runCommand_of_run cs name hrun] at h
      cases h
      exact ⟨r, written, rfl, rfl⟩

/-! ### Segments and lines -/

/-- A diagnostic as the outcome of a segment that failed. -/
def failWith (diagnostic : String) : Act Bool := do
  Act.writeErr diagnostic
  return false

/-- Running the words that the head of a segment resolved to, with the rest of the segment. -/
def dispatch (cs : Commands) (tail : String) : List String → Act Bool
  | [] => failWith "Syntax error: empty command"
  | name :: ws => match cs.lookup name with
    | some c => runCommand cs name c (ws ++ Text.words tail)
    | none => runExternal (Text.unwords (name :: ws ++ (if tail.isEmpty then [] else [tail])))

/-- Executing a segment; whether it succeeded. -/
def execute (cs : Commands) (text : String) : Act Bool :=
  match Text.headAndRest text with
  | none => failWith "Syntax error: empty command"
  | some (head, tail) => do
      match ← (resolve [head]).attempt with
      | .error e => failWith s!"Error: {e.message}"
      | .ok ws => dispatch cs tail ws

/-- A segment whose head resolves comes to what its words are dispatched to. -/
theorem run_execute_of_resolve {cs : Commands} {text head tail : String}
    (hhead : Text.headAndRest text = some (head, tail)) {ws : List String} (c : Context) {s : Store}
    (hresolve : s.aliases.resolve s.maxPasses [head] = .ok ws) :
    (execute cs text).run c s = (dispatch cs tail ws).run c s := by
  have hrun : (resolve [head]).attempt.run c s = ⟨.ok (.ok ws), s, []⟩ := by
    simp [resolve, Act.ofExcept, hresolve]
  rw [execute, hhead]
  simp only [Act.run_bind, hrun, Act.andThen_ok, List.nil_append]

/-- A segment whose head stands for a command ends as the report on the command does. -/
theorem run_execute_of_lookup {cs : Commands} {command : Command} {name : String}
    (hcommand : cs.lookup name = some command) {text head tail : String}
    (hhead : Text.headAndRest text = some (head, tail)) {ws : List String} (c : Context) {s : Store}
    (hresolve : s.aliases.resolve s.maxPasses [head] = .ok (name :: ws)) :
    (execute cs text).run c s =
      (runCommand cs name command (ws ++ Text.words tail)).run c s := by
  rw [run_execute_of_resolve hhead c hresolve, dispatch, hcommand]

/-- A segment whose head does not resolve fails, and the reason is written. -/
theorem run_execute_of_resolve_error {cs : Commands} {text head tail : String}
    (hhead : Text.headAndRest text = some (head, tail)) {e : Alias.ResolveError} (c : Context)
    {s : Store} (hresolve : s.aliases.resolve s.maxPasses [head] = .error e) :
    (execute cs text).run c s = ⟨.ok false, s, [.err s!"Error: {e.message}"]⟩ := by
  have hrun : (resolve [head]).attempt.run c s = ⟨.ok (.error (.resolution e)), s, []⟩ := by
    simp [resolve, Act.ofExcept, hresolve]
  rw [execute, hhead]
  simp only [Act.run_bind, hrun, Act.andThen_ok, List.nil_append]
  rfl

/-- Whether a segment is executed, given the outcome of the one before. -/
def isAdmitted (s : Segment) (succeeded : Bool) : Bool :=
  match s.operator with
  | none => true
  | some op => op.admits succeeded

/-- Executing segments as long as they are admitted; the outcome of the last one. -/
def executeAll (cs : Commands) (succeeded : Bool) : List Segment → Act Bool
  | [] => pure succeeded
  | s :: rest =>
      if isAdmitted s succeeded then do executeAll cs (← execute cs s.text) rest
      else pure succeeded

/-- The line that is meant, echoed if it is not the one that was typed, and recorded. -/
def recordLine (raw : String) : Act String := do
  let s ← Act.get
  let line ← Act.ofExcept .numeral (s.history.expand raw)
  Act.writeAll (if line = raw then [] else [line])
  Act.modify fun s => { s with history := s.history.add line }
  return line

/-- Running one line of input; whether the last segment executed succeeded. A blank line does
nothing. -/
def runLine (cs : Commands) (raw : String) : Act Bool :=
  if Text.isBlankText raw then pure true
  else do executeAll cs true (Segment.ofLine (← recordLine raw))

end Session

end LineShell
