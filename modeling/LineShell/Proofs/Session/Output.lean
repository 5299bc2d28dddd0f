import LineShell.Proofs.Session.Containment

/-!
# What a child has written

A child that has finished leaves a code, an output and diagnostics, and what the session makes of
these is decided by the code (`exists_run_runExternal`). Whatever it is, the session says something
about diagnostics only behind the output, and the segment succeeds exactly if the code is zero.

The output is kept for all codes but one. A shell says by `Child.notFoundCode` that it found no such
command, but so it does when the last of several commands was not found, and the others may have
written something before. The report on an unknown command leaves this out, where the report on any
other command that failed does not.

**Main statement** (`execute_of_finished`): the output of a child, unless it is empty, is all that
is written, and it is written before any diagnostic, exactly if the code is not
`Child.notFoundCode`.
-/

namespace LineShell

namespace Event

/-- Whether a text is all that is written, and no diagnostic is written before it. -/
def IsWrittenFirst (text : String) (es : List Event) : Prop :=
  ∃ before after, es = before ++ .out text :: after ∧ diagnostics before = [] ∧ outputs before = [] ∧
    outputs after = []

theorem IsWrittenFirst.outputs_eq {text : String} {es : List Event} (h : IsWrittenFirst text es) :
    outputs es = [text] := by
  obtain ⟨before, after, rfl, -, hbefore, hafter⟩ := h
  have hsplit : outputs (.out text :: after) = text :: outputs after := rfl
  rw [outputs_append, hsplit, hbefore, hafter, List.nil_append]

/-- Diagnostics are no output. -/
@[simp] theorem outputs_map_err (ls : List String) : outputs (ls.map .err) = [] := by
  simp [outputs]

end Event

namespace Session

/-- Running a child that finishes makes a note of it. -/
theorem run_runChild_of_finished {c : Context} {s : Store} {commandLine : String} {code : Int}
    {out err : String} {d : Disk}
    (hhost : c.host.run c.shell s.disk commandLine = (.finished code out err, d)) :
    (Act.runChild commandLine).run c s =
      ⟨(Child.ofReply commandLine (.finished code out err)).mapError .child, { s with disk := d },
        [.call commandLine c.shell, .note (.childFinished commandLine code)]⟩ := by
  have hresult := Act.result_runChild commandLine c s
  rw [hhost] at hresult
  rw [← hresult, Act.runChild]
  simp only [Act.run_bind, Act.run_call, Act.andThen_ok, hhost, Child.Reply.child?, Act.noteChild,
    Act.run_note]
  cases Child.ofReply commandLine (.finished code out err) <;> rfl

/-- **What is reported of a child that has finished**: whether its code is zero, its output unless
the code says that there is no such command, and then diagnostics. -/
theorem exists_run_runExternal {c : Context} {s : Store} {commandLine : String} {code : Int}
    {out err : String} {d : Disk}
    (hhost : c.host.run c.shell s.disk commandLine = (.finished code out err, d)) :
    ∃ said : List String, (runExternal commandLine).run c s =
      ⟨.ok (decide (code = 0)), { s with disk := d },
        [.call commandLine c.shell, .note (.childFinished commandLine code)] ++
          ((if code = Child.notFoundCode then []
            else (Reply.text (Text.dropFinalNewlines out)).texts.map .out) ++ said.map .err)⟩ := by
  rw [runExternal, Act.run_bind, Act.run_attempt, run_runChild_of_finished hhost, Act.andThen_ok]
  by_cases hunknown : code = Child.notFoundCode
  · have hcode : decide (code = 0) = false := by
      rw [hunknown]
      decide
    rw [Child.ofReply, if_pos hunknown, if_pos hunknown, hcode]
    exact ⟨[(Child.Error.unknown (Text.firstWord commandLine)
      (some ⟨commandLine, code, out, err⟩)).message, helpHint],
      by simp [Except.mapError, reportChild, Except.map]⟩
  · by_cases hzero : code = 0
    · rw [Child.ofReply, if_neg hunknown, if_pos hzero, if_neg hunknown, decide_eq_true hzero]
      exact ⟨diagnosticsOf ⟨commandLine, code, out, err⟩, by
        simp [Except.mapError, reportChild, Except.map, outputOf]⟩
    · rw [Child.ofReply, if_neg hunknown, if_neg hzero, if_neg hunknown, decide_eq_false hzero]
      exact ⟨[s!"Error: {(Child.Error.failed (Text.firstWord commandLine) ⟨commandLine, code, out, err⟩).message}"],
        by simp [Except.mapError, reportChild, Except.map, outputOf]⟩

/-- **What becomes of the output of a child.** A segment whose head stands for no command is handed
to a child. When the child has finished, the segment succeeds exactly if the code is zero; and its
output without the line feeds at its end, unless this is empty, is all that is written and comes
before any diagnostic, exactly if the code is another than that of an unknown command. Otherwise
nothing is written. -/
theorem execute_of_finished {cs : Commands} {text head tail name : String} {ws : List String}
    {c : Context} {s : Store} (hhead : Text.headAndRest text = some (head, tail))
    (hresolve : s.aliases.resolve s.maxPasses [head] = .ok (name :: ws)) (hname : cs.lookup name = none)
    {code : Int} {out err : String} {d : Disk}
    (hhost : c.host.run c.shell s.disk (commandLineOf (name :: ws) tail) =
      (.finished code out err, d)) :
    (execute cs text).run c s = (runExternal (commandLineOf (name :: ws) tail)).run c s ∧
    ((execute cs text).run c s).result = .ok (decide (code = 0)) ∧
    (Text.dropFinalNewlines out ≠ "" →
      (Event.IsWrittenFirst (Text.dropFinalNewlines out) ((execute cs text).run c s).events ↔
        code ≠ Child.notFoundCode)) ∧
    (Text.dropFinalNewlines out = "" ∨ code = Child.notFoundCode →
      Event.outputs ((execute cs text).run c s).events = []) := by
  have hsegment : (execute cs text).run c s =
      (runExternal (commandLineOf (name :: ws) tail)).run c s := by
    rw [run_execute_of_resolve hhead c hresolve, dispatch, hname]
    rfl
  obtain ⟨said, hrun⟩ := exists_run_runExternal hhost
  have hlog : Event.outputs [.call (commandLineOf (name :: ws) tail) c.shell,
      .note (.childFinished (commandLineOf (name :: ws) tail) code)] = [] := rfl
  rw [hsegment, hrun]
  refine ⟨rfl, rfl, fun hne => ⟨fun h hunknown => ?_, fun hknown => ?_⟩, ?_⟩
  · have houtputs := h.outputs_eq
    rw [if_pos hunknown, Event.outputs_append, Event.outputs_append, hlog,
      Event.outputs_map_err] at houtputs
    cases houtputs
  · have htexts : (Reply.text (Text.dropFinalNewlines out)).texts = [Text.dropFinalNewlines out] := by
      simp [Reply.texts, hne]
    rw [if_neg hknown, htexts]
    exact ⟨_, said.map .err, rfl, rfl, rfl, Event.outputs_map_err said⟩
  · intro hnothing
    have htexts : (if code = Child.notFoundCode then []
        else (Reply.text (Text.dropFinalNewlines out)).texts.map Event.out) = [] := by
      rcases hnothing with hempty | hunknown
      · rw [hempty]
        exact ite_self []
      · rw [if_pos hunknown]
    rw [htexts, Event.outputs_append, Event.outputs_append, hlog, Event.outputs_map_err]
    rfl

/-- A child that has written a line, failed, and said why. -/
theorem execute_of_failed_cat :
    Event.IsWrittenFirst "one" ((execute builtins "cat a b").run
      ⟨Host.always (.finished 1 "one\n" "cat: b: No such file or directory\n"), none⟩
      ⟨⟨[]⟩, .empty, 10, .empty⟩).events := by
  let s : Store := ⟨⟨[]⟩, .empty, 10, .empty⟩
  have hhead : Text.headAndRest "cat a b" = some ("cat", "a b") := by decide +kernel
  have hresolve : s.aliases.resolve s.maxPasses ["cat"] = .ok ("cat" :: []) := by decide +kernel
  have hname : builtins.lookup "cat" = none := rfl
  have hwritten : Text.dropFinalNewlines "one\n" = "one" := by decide +kernel
  let host : Host := .always (.finished 1 "one\n" "cat: b: No such file or directory\n")
  have hhost : host.run none s.disk (commandLineOf ("cat" :: []) "a b") =
      (.finished 1 "one\n" "cat: b: No such file or directory\n", s.disk) := rfl
  obtain ⟨-, -, hiff, -⟩ := execute_of_finished (c := ⟨host, none⟩) hhead hresolve hname hhost
  rw [hwritten] at hiff
  exact (hiff (by decide)).mpr (by decide)

/-- A command line of two commands, of which the first writes a line and the second is not found:
nothing of the line is written, though the child has finished with it as its output. -/
theorem execute_of_second_unknown :
    let host : Host := .always (.finished 127 "hi\n" "sh: 1: nosuch: not found\n")
    Text.dropFinalNewlines "hi\n" = "hi" ∧
      Event.outputs ((execute builtins "echo hi; nosuch").run ⟨host, none⟩
        ⟨⟨[]⟩, .empty, 10, .empty⟩).events = [] ∧
      ¬ Event.IsWrittenFirst "hi"
        ((execute builtins "echo hi; nosuch").run ⟨host, none⟩ ⟨⟨[]⟩, .empty, 10, .empty⟩).events := by
  intro host
  have hnone : Event.outputs
      ((execute builtins "echo hi; nosuch").run ⟨host, none⟩ ⟨⟨[]⟩, .empty, 10, .empty⟩).events =
        [] := by
    decide +kernel
  refine ⟨by decide +kernel, hnone, fun h => ?_⟩
  have houtputs := h.outputs_eq
  rw [hnone] at houtputs
  cases houtputs

end Session

end LineShell
