import LineShell.Proofs.Session.Containment

/-!
# Children that are refused

A child that fails, and one for which there is no shell, are failures that a session knows of: it reports
them and goes on (`result_runExternal`). But the system may also refuse to start a child, and a refusal is
none of these. It is handed on as it is, through the segment and the line, and nothing behind these is
there to stop it.

When the system refuses is up to the system. `Host.TurnsDown` says what is documented of it: that it takes
no command line with the null character, and what it answers for a shell that is missing and for one that
cannot be executed.

**Main statement** (`runExternal_returns_iff`): in any world, running a command line comes to a truth value
exactly if the child finishes or there is no shell for it; where the system turns down what it is
documented to turn down, a null character and a shell that cannot be executed end the session.
-/

namespace LineShell

/-- A refusal of a value as such: no files would make the system accept it. -/
def Child.Refusal.IsOfValue : Child.Refusal → Prop
  | nullCharacter | notEncodable _ => True
  | notExecutable _ | unreachable _ _ | tooLong _ => False

/-- What is documented of a system about the command lines that it does not run. Which shells are missing
on a disk, and which are there but cannot be executed, is for each system to say. -/
structure Host.TurnsDown (h : Host) (isMissing isBlocked : Disk → Option WideText → Prop) : Prop where
  /-- A command line with the null character is refused under every shell, as a value. -/
  null : ∀ shell d commandLine, '\x00' ∈ commandLine.toList →
    ∃ r, r.IsOfValue ∧ (h.run shell d commandLine).1 = .refused r
  /-- For all others, a missing shell is said to be missing. -/
  missing : ∀ shell d commandLine, '\x00' ∉ commandLine.toList → isMissing d shell →
    (h.run shell d commandLine).1 = .shellMissing
  /-- A shell that cannot be executed is refused by its name. -/
  blocked : ∀ shell d commandLine, '\x00' ∉ commandLine.toList → isBlocked d shell →
    ∃ name, (h.run shell d commandLine).1 = .refused (.notExecutable name)

namespace Session

/-- What running a command line comes to, for each answer of the system. -/
def resultOfReply : Child.Reply → Except Fault Bool
  | .finished code _ _ => .ok (decide (code = 0))
  | .shellMissing => .ok false
  | .interrupted => .error (.child .interrupted)
  | .refused r => .error (.child (.refused r))

/-- **What running a command line comes to** is decided by the answer of the system. -/
theorem result_runExternal (commandLine : String) (c : Context) (s : Store) :
    ((runExternal commandLine).run c s).result =
      resultOfReply (c.host.run c.shell s.disk commandLine).1 := by
  have hreport : ((runExternal commandLine).run c s).result =
      ((reportChild ((Act.runChild commandLine).run c s).result).run c
        ((Act.runChild commandLine).run c s).store).result := by
    rw [runExternal, Act.run_bind, Act.run_attempt, Act.andThen_ok]
  rw [hreport, Act.result_runChild]
  generalize ((Act.runChild commandLine).run c s).store = t
  cases (c.host.run c.shell s.disk commandLine).1 with
  | finished code out err =>
      by_cases hunknown : code = Child.notFoundCode
      · have hcode : decide (code = 0) = false := by
          rw [hunknown]
          decide
        rw [Child.ofReply, if_pos hunknown, resultOfReply, hcode]
        simp [Except.mapError, reportChild, Except.map]
      · by_cases hzero : code = 0
        · simp [Child.ofReply, hzero, Child.notFoundCode, Except.mapError, reportChild, resultOfReply,
            Except.map]
        · simp [Child.ofReply, hunknown, hzero, Except.mapError, reportChild, resultOfReply, Except.map]
  | shellMissing => simp [Child.ofReply, Except.mapError, reportChild, resultOfReply, Except.map]
  | interrupted => rfl
  | refused r => rfl

/-- A truth value is what an answer comes to unless there was an interruption or a refusal. -/
theorem exists_resultOfReply_iff {r : Child.Reply} : (∃ b, resultOfReply r = .ok b) ↔ r.IsOrderly := by
  cases r <;> simp [resultOfReply, Child.Reply.IsOrderly]

/-- The errors that a session knows of are those of a child that failed, or had no shell. -/
theorem exists_ofReply_isFailure_iff (commandLine : String) {r : Child.Reply} :
    (∃ e, Child.ofReply commandLine r = .error e ∧ e.IsFailure) ↔ r.IsFailure := by
  constructor
  · rintro ⟨e, he, hkind⟩
    cases r with
    | finished code out err =>
        rintro rfl
        rw [Child.ofReply_eq_ok_iff (c := ⟨commandLine, 0, out, err⟩) |>.mpr ⟨rfl, rfl, rfl⟩] at he
        cases he
    | shellMissing => trivial
    | interrupted => cases he; exact hkind
    | refused r => cases he; exact hkind
  · exact fun h => Child.ofReply_of_isFailure h commandLine

/-- **When running a command line comes to a truth value.** A child is returned exactly if it finished
with the code zero, and there is an error that the session knows of exactly if it failed or there was no
shell for it. In these cases, and in no others, a truth value is what the session makes of it: a refusal
is handed on. So a null character in the command line, and a shell that cannot be executed, end the
session; a shell that is missing does not. -/
theorem runExternal_returns_iff (commandLine : String) (c : Context) (s : Store) :
    -- what is returned of a child
    (∀ child, ((Act.runChild commandLine).run c s).result = .ok child ↔
      (c.host.run c.shell s.disk commandLine).1 = .finished 0 child.out child.err ∧
        child.commandLine = commandLine ∧ child.code = 0) ∧
    -- the errors that are known
    ((∃ e, ((Act.runChild commandLine).run c s).result = .error (.child e) ∧ e.IsFailure) ↔
      (c.host.run c.shell s.disk commandLine).1.IsFailure) ∧
    -- what the session makes of it
    ((∃ b, ((runExternal commandLine).run c s).result = .ok b) ↔
      (c.host.run c.shell s.disk commandLine).1.IsOrderly) ∧
    (∀ r, (c.host.run c.shell s.disk commandLine).1 = .refused r →
      ((runExternal commandLine).run c s).result = .error (.child (.refused r))) ∧
    -- where the system turns down what it is documented to turn down
    (∀ isMissing isBlocked, c.host.TurnsDown isMissing isBlocked →
      ('\x00' ∈ commandLine.toList → ∃ r, r.IsOfValue ∧
        ((runExternal commandLine).run c s).result = .error (.child (.refused r))) ∧
      ('\x00' ∉ commandLine.toList → isMissing s.disk c.shell →
        ((runExternal commandLine).run c s).result = .ok false) ∧
      ('\x00' ∉ commandLine.toList → isBlocked s.disk c.shell → ∃ name,
        ((runExternal commandLine).run c s).result =
          .error (.child (.refused (.notExecutable name))))) := by
  have hreturns : (∃ b, ((runExternal commandLine).run c s).result = .ok b) ↔
      (c.host.run c.shell s.disk commandLine).1.IsOrderly := by
    rw [result_runExternal]
    exact exists_resultOfReply_iff
  have hrefused : ∀ r, (c.host.run c.shell s.disk commandLine).1 = .refused r →
      ((runExternal commandLine).run c s).result = .error (.child (.refused r)) := by
    intro r hr
    rw [result_runExternal, hr, resultOfReply]
  refine ⟨fun child => ?_, ?_, hreturns, hrefused, fun isMissing isBlocked hturns => ⟨?_, ?_, ?_⟩⟩
  · rw [Act.result_runChild, ← Child.ofReply_eq_ok_iff]
    cases Child.ofReply commandLine (c.host.run c.shell s.disk commandLine).1 <;>
      simp [Except.mapError]
  · rw [Act.result_runChild, ← exists_ofReply_isFailure_iff commandLine]
    cases Child.ofReply commandLine (c.host.run c.shell s.disk commandLine).1 <;>
      simp [Except.mapError]
  · intro hnull
    obtain ⟨r, hvalue, hanswer⟩ := hturns.null _ _ _ hnull
    exact ⟨r, hvalue, hrefused r hanswer⟩
  · intro hline hmissing
    rw [result_runExternal, hturns.missing _ _ _ hline hmissing, resultOfReply]
  · intro hline hblocked
    obtain ⟨name, hanswer⟩ := hturns.blocked _ _ _ hline hblocked
    exact ⟨name, hrefused _ hanswer⟩

/-- A system with the common shell as its only program, which ends well whatever it is given, and with
the directory `/`. -/
def soleShell : Host where
  run shell d commandLine :=
    (if '\x00' ∈ commandLine.toList then .refused .nullCharacter
      else if shell = none ∨ shell = some (.ofString "/bin/sh") then .finished 0 "hi\n" ""
      else if shell = some (.ofString "/") then .refused (.notExecutable "/")
      else .shellMissing, d)
  clock := "12:34:56"
  room := 1024
  depth := 64

/-- It turns down what it is documented to turn down: of the shells that are named, all but the common
one and the directory are missing. -/
theorem turnsDown_soleShell :
    soleShell.TurnsDown
      (fun _ shell => shell ≠ none ∧ shell ≠ some (.ofString "/bin/sh") ∧ shell ≠ some (.ofString "/"))
      (fun _ shell => shell = some (.ofString "/")) where
  null shell d commandLine hnull := ⟨.nullCharacter, trivial, by simp [soleShell, hnull]⟩
  missing shell d commandLine hline := by
    rintro ⟨hnamed, hcommon, hroot⟩
    simp [soleShell, hline, hnamed, hcommon, hroot]
  blocked shell d commandLine hline := by
    rintro rfl
    exact ⟨"/", by simp [soleShell, hline, WideText.ofString_inj]⟩

/-- **A directory in place of the shell** is refused, and the refusal is handed on; for a shell that is
missing there is a truth value. -/
theorem runExternal_of_directory_for_shell :
    (∃ name, ((runExternal "echo hi").run ⟨soleShell, some (.ofString "/")⟩
        ⟨.empty, .empty, 10, .empty⟩).result = .error (.child (.refused (.notExecutable name)))) ∧
      ((runExternal "echo hi").run ⟨soleShell, some (.ofString "/nosuch")⟩
        ⟨.empty, .empty, 10, .empty⟩).result = .ok false := by
  constructor
  · obtain ⟨-, -, -, -, hturned⟩ := runExternal_returns_iff "echo hi"
      ⟨soleShell, some (.ofString "/")⟩ ⟨.empty, .empty, 10, .empty⟩
    obtain ⟨-, -, hblocked⟩ := hturned _ _ turnsDown_soleShell
    exact hblocked (by decide) rfl
  · obtain ⟨-, -, -, -, hturned⟩ := runExternal_returns_iff "echo hi"
      ⟨soleShell, some (.ofString "/nosuch")⟩ ⟨.empty, .empty, 10, .empty⟩
    obtain ⟨-, hmissing, -⟩ := hturned _ _ turnsDown_soleShell
    exact hmissing (by decide) (by decide)

/-- **A null character in a segment** ends the session: neither is the child an error that is known, nor
does the segment come to a truth value. -/
theorem execute_of_null_character :
    ((execute builtins "echo a\x00b").run ⟨soleShell, none⟩ ⟨.empty, .empty, 10, .empty⟩).result =
        .error (.child (.refused .nullCharacter)) ∧
      (Child.Refusal.nullCharacter.message = "embedded null byte") ∧
      ∀ e, ((Act.runChild "echo a\x00b").run ⟨soleShell, none⟩ ⟨.empty, .empty, 10, .empty⟩).result =
        .error (.child e) → ¬ e.IsFailure := by
  have hrun : ((Act.runChild "echo a\x00b").run ⟨soleShell, none⟩
      ⟨.empty, .empty, 10, .empty⟩).result = .error (.child (.refused .nullCharacter)) := by
    decide +kernel
  refine ⟨by decide +kernel, rfl, fun e he hkind => ?_⟩
  rw [hrun] at he
  cases he
  exact hkind

end Session

end LineShell
