import LineShell.Command.Calc
import LineShell.Proofs.Calc.Operands
import LineShell.Session.Basic

/-!
# How evaluations end

An evaluation shows a value or turns the expression down, unless it meets a limit below the calculator
(`HitsLimit`). It meets one when the first application of the expression's tree that comes to no value
is one that does, or when all come to values and there is no room for the notation of the last one. No
limit on the expression keeps that away: numerals may have `maxLiteralDigits` digits and powers
`maxPowerDigits`, but only `Numeral.maxDigits` digits are converted, and exponents are not bounded at all.

What befalls the evaluation is a fault of the command `calc`, and a failure of its segment.

**Main statement** (`evaluate_ends_well_iff`): the words on which this happens, for evaluations, for the
command and for segments. A short expression is among them (`evaluate_of_long_reciprocal`).
-/

namespace LineShell

namespace Calc

/-- Whether the tree of an expression meets a limit below the calculator: with the first application that
comes to no value, or with the notation of what it comes to. -/
def Tree.HitsLimit (room : Nat) (x : Tree) : Prop :=
  (∃ (before : List Application) (p : Application) (after : List Application),
      x.applications = before ++ p :: after ∧ (∀ q ∈ before, ∃ v, q.outcome = .ok v) ∧ p.MeetsLimit) ∨
    ∃ v, x.value? = some v ∧ v.hasRoom room = false

/-- Whether the expression that words make meets a limit below the calculator. -/
def HitsLimit (room : Nat) (ws : List String) : Prop :=
  ∃ (text : String) (x : Tree), normalize ws = .ok text ∧ x.IsGrouped ∧
    chainOf (shown text) = .ok x.toChain ∧ x.HitsLimit room

/-! ### Evaluations -/

/-- Words that make no expression are turned down. -/
theorem evaluate_of_normalize_error {ws : List String} {e : Error} (h : normalize ws = .error e)
    (room : Nat) : evaluate room ws = .error (.rejected e) := by
  rw [evaluate, calculate, h]
  rfl

/-- An expression that spells no chain is turned down. -/
theorem evaluate_of_chainOf_error {ws : List String} {text : String} {e : Error}
    (hn : normalize ws = .ok text) (h : chainOf (shown text) = .error e) (room : Nat) :
    evaluate room ws = .error (.rejected e) := by
  rw [evaluate, calculate, hn]
  simp only [Except.mapError, bind, Except.bind, h]

/-- Any other expression ends as its chain does, if there is room for the value. -/
theorem evaluate_of_chainOf {ws : List String} {text : String} {c : Chain}
    (hn : normalize ws = .ok text) (hc : chainOf (shown text) = .ok c) (room : Nat) :
    evaluate room ws = c.value.bind (answerLine room (shown text)) := by
  rw [evaluate, calculate, hn]
  simp only [Except.mapError, bind, Except.bind, hc]
  cases c.value with
  | error f => rfl
  | ok v => rfl

/-- Where there is room for a value, it is shown. -/
theorem answerLine_of_hasRoom {room : Nat} {v : Decimal} (h : v.hasRoom room = true) (text : String) :
    answerLine room text v = .ok s!"{text} = {v.plain}" := by
  rw [answerLine, Decimal.plain?, if_pos h]

theorem answerLine_of_not_hasRoom {room : Nat} {v : Decimal} (h : v.hasRoom room = false)
    (text : String) : answerLine room text v = .error .noRoom := by
  rw [answerLine, Decimal.plain?, h]
  rfl

/-- A line shows the expression and the value. -/
theorem eq_of_answerLine_eq_ok {room : Nat} {text : String} {v : Decimal} {line : String}
    (h : answerLine room text v = .ok line) : line = s!"{text} = {v.plain}" := by
  cases hroom : v.hasRoom room with
  | false =>
      rw [answerLine_of_not_hasRoom hroom] at h
      cases h
  | true =>
      rw [answerLine_of_hasRoom hroom] at h
      exact (Except.ok.inj h).symm

/-- The applications of an expression have exponents that are written, where they have any. -/
theorem isWritten_right_of_mem {text : String} {c : Chain} (hc : chainOf text = .ok c)
    {p : Application} (hp : p ∈ (Tree.ofChain c).applications) (ho : p.operator = .pow) :
    IsWritten p.right := by
  have hmem : ∀ t, p ∈ (Tree.ofChain c).applicationsOf t → IsWritten p.right := by
    intro t ht
    have hvalue := (Tree.isGrouped_ofChain c).right_mem_values ht ho
    rw [Tree.toChain_ofChain] at hvalue
    exact isWritten_of_mem_values hc _ hvalue
  rw [Tree.applications, List.mem_append, List.mem_append] at hp
  exact hp.elim (fun hp => hp.elim (hmem _) (hmem _)) (hmem _)

/-- An evaluation that meets a limit below the calculator fails there. -/
theorem evaluate_of_hitsLimit {room : Nat} {ws : List String} (h : HitsLimit room ws) :
    ∃ f, f.isFault = true ∧ evaluate room ws = .error f := by
  obtain ⟨text, x, hn, hx, hc, hlimit⟩ := h
  have htree : x = Tree.ofChain x.toChain :=
    hx.eq_of_toChain_eq (Tree.isGrouped_ofChain _) (Tree.toChain_ofChain _).symm
  rw [evaluate_of_chainOf hn hc]
  rcases hlimit with ⟨before, p, after, happ, hbefore, hp⟩ | ⟨v, hv, hroom⟩
  · obtain ⟨f, hfault, hf⟩ := Application.outcome_of_meetsLimit hp
    have hvalue : x.toChain.value = .error f := by
      rw [Chain.value_eq_error_iff, ← htree]
      exact Tree.firstFailure?_eq_some_iff.mpr ⟨before, p, after, happ, hbefore, hf⟩
    exact ⟨f, hfault, by rw [hvalue]; rfl⟩
  · have hvalue : x.toChain.value = .ok v := by
      rw [Chain.value_eq_ok_iff, ← htree]
      exact hv
    exact ⟨.noRoom, rfl, by rw [hvalue]; exact answerLine_of_not_hasRoom hroom _⟩

/-- Any other evaluation shows a value or turns the expression down. -/
theorem evaluate_of_not_hitsLimit {room : Nat} {ws : List String} (h : ¬ HitsLimit room ws) :
    (∃ line, evaluate room ws = .ok line) ∨ ∃ e, evaluate room ws = .error (.rejected e) := by
  cases hn : normalize ws with
  | error e => exact .inr ⟨e, evaluate_of_normalize_error hn room⟩
  | ok text =>
      cases hc : chainOf (shown text) with
      | error e => exact .inr ⟨e, evaluate_of_chainOf_error hn hc room⟩
      | ok c =>
          rw [evaluate_of_chainOf hn hc]
          have hnone : ¬ (Tree.ofChain c).HitsLimit room := fun hlimit =>
            h ⟨text, Tree.ofChain c, hn, Tree.isGrouped_ofChain c, by rw [Tree.toChain_ofChain, hc], hlimit⟩
          cases hvalue : c.value with
          | ok v =>
              have hroom : v.hasRoom room = true := by
                by_contra hroom
                exact hnone (.inr ⟨v, Chain.value_eq_ok_iff.mp hvalue, eq_false_of_ne_true hroom⟩)
              exact .inl ⟨_, answerLine_of_hasRoom hroom _⟩
          | error f =>
              obtain ⟨before, p, after, happ, hbefore, hp⟩ :=
                Tree.firstFailure?_eq_some_iff.mp (Chain.value_eq_error_iff.mp hvalue)
              have hmem : p ∈ (Tree.ofChain c).applications := by rw [happ]; simp
              have hwithin : ¬ p.MeetsLimit := fun hlimit =>
                hnone (.inl ⟨before, p, after, happ, hbefore, hlimit⟩)
              obtain ⟨hleft, hright⟩ := exponent_nonpos_of_mem_applications hc hmem
              rcases Application.outcome_of_not_meetsLimit (isWritten_right_of_mem hc hmem) hleft hright
                hwithin with ⟨v, hok⟩ | ⟨e, herror⟩
              · rw [hok] at hp
                cases hp
              · rw [herror] at hp
                cases hp
                exact .inr ⟨e, rfl⟩

end Calc

/-! ### The command -/

namespace Command

open Calc

/-- Without arguments there is no expression, let alone a limit that it meets. -/
theorem not_hitsLimit_nil (room : Nat) : ¬ HitsLimit room (unquote []) := by
  rintro ⟨text, x, hn, -⟩
  have hempty : normalize (unquote []) = .error .emptyExpression := by decide +kernel
  rw [hempty] at hn
  cases hn

/-- With arguments there is an evaluation, and what comes of it. -/
theorem run_runCalc_of_ne_nil {ws : List String} (h : ws ≠ []) (c : Context) (s : Store) :
    (runCalc ws).run c s = (calcReply (evaluate c.host.room (unquote ws))).run c s := by
  unfold runCalc
  split
  · exact absurd rfl h
  · rw [Act.run_bind, Act.run_room, Act.andThen_ok, List.nil_append]

/-- A line that is shown is the answer. -/
theorem result_calcReply_ok (line : String) (c : Context) (s : Store) :
    ((calcReply (.ok line)).run c s).result = .ok (.text line) := rfl

/-- An expression that is turned down has no answer, but that is no fault. -/
theorem result_calcReply_rejected (e : Calc.Error) (c : Context) (s : Store) :
    ((calcReply (.error (.rejected e))).run c s).result = .ok .nothing := rfl

/-- A failure below the calculator is a fault. -/
theorem result_calcReply_of_isFault {f : Failure} (h : f.isFault = true) (c : Context) (s : Store) :
    ((calcReply (.error f)).run c s).result = .error (.calculation f) := by
  cases f with
  | rejected e => cases h
  | conversion e | arithmetic e | zeroDivisor | noRoom => rfl

/-- **The command comes to an end of its own** unless its expression meets a limit. -/
theorem result_runCalc (args : List String) (c : Context) (s : Store) :
    (¬ HitsLimit c.host.room (unquote args) ∧ ∃ r, ((runCalc args).run c s).result = .ok r) ∨
      (HitsLimit c.host.room (unquote args) ∧
        ∃ f, f.isFault = true ∧ ((runCalc args).run c s).result = .error (.calculation f)) := by
  by_cases hargs : args = []
  · subst hargs
    exact .inl ⟨not_hitsLimit_nil _, .nothing, rfl⟩
  · rw [run_runCalc_of_ne_nil hargs]
    by_cases h : HitsLimit c.host.room (unquote args)
    · obtain ⟨f, hfault, hf⟩ := evaluate_of_hitsLimit h
      exact .inr ⟨h, f, hfault, by rw [hf, result_calcReply_of_isFault hfault]⟩
    · refine .inl ⟨h, ?_⟩
      rcases evaluate_of_not_hitsLimit h with ⟨line, hline⟩ | ⟨e, he⟩
      · exact ⟨.text line, by rw [hline, result_calcReply_ok]⟩
      · exact ⟨.nothing, by rw [he, result_calcReply_rejected]⟩

end Command

/-! ### Segments -/

namespace Session

open Calc Command

/-- Reporting on a command that came to an end of its own counts as success. -/
theorem result_reportCommand_ok (name : String) (r : Reply) (c : Context) (s : Store) :
    ((reportCommand name (.ok r)).run c s).result = .ok true := by
  rw [reportCommand, Act.run_bind, Reply.run_write]
  rfl

/-- Reporting on a calculation that could not be finished counts as failure. -/
theorem result_reportCommand_calculation (name : String) (f : Failure) (c : Context) (s : Store) :
    ((reportCommand name (.error (.calculation f))).run c s).result = .ok false := rfl

/-- A command is run, and what comes of it is reported. -/
theorem result_runCommand (cs : Commands) (name : String) (command : Command) (args : List String)
    (c : Context) (s : Store) :
    ((runCommand cs name command args).run c s).result =
      ((reportCommand name ((command.run cs.catalogue args).run c s).result).run c
        ((command.run cs.catalogue args).run c s).store).result := by
  rw [runCommand, Act.run_bind, Act.run_attempt, Act.andThen_ok]

/-- **A segment for the calculator** succeeds unless its expression meets a limit. -/
theorem result_execute_calculator {cs : Commands} (hcalc : cs.lookup "calc" = some calculator)
    {text head tail : String} (hhead : Text.headAndRest text = some (head, tail)) {ws : List String}
    (c : Context) {s : Store} (hresolve : s.aliases.resolve s.maxPasses [head] = .ok ("calc" :: ws)) :
    ∃ b, ((execute cs text).run c s).result = .ok b ∧
      (b = true ↔ ¬ HitsLimit c.host.room (unquote (ws ++ Text.words tail))) := by
  have hrun : ∀ cat args, calculator.run cat args = runCalc args := fun _ _ => rfl
  rw [run_execute_of_lookup hcalc hhead c hresolve, result_runCommand, hrun]
  rcases result_runCalc (ws ++ Text.words tail) c s with ⟨hlimit, r, hr⟩ | ⟨hlimit, f, -, hf⟩
  · rw [hr, result_reportCommand_ok]
    exact ⟨true, rfl, by simp [hlimit]⟩
  · rw [hf, result_reportCommand_calculation]
    exact ⟨false, rfl, by simp [hlimit]⟩

end Session

namespace Calc

/-- **How a calculation ends.** On any words, and with any room for notations, the evaluation shows a value
or turns the expression down, unless the expression meets a limit below the calculator; then it ends with a
failure that is none of the calculator's. Likewise the command `calc` comes to an end of its own, and a
segment whose command it is succeeds, unless its expression meets such a limit. -/
theorem evaluate_ends_well_iff (room : Nat) (words : List String) :
    (((∃ line, evaluate room words = .ok line) ∨ ∃ e, evaluate room words = .error (.rejected e)) ↔
        ¬ HitsLimit room words) ∧
      (HitsLimit room words → ∃ f, (∀ e, f ≠ .rejected e) ∧ evaluate room words = .error f) ∧
      (∀ catalogue c s,
        (∃ r, ((Command.calculator.run catalogue words).run c s).result = .ok r) ↔
          ¬ HitsLimit c.host.room (Command.unquote words)) ∧
      ∀ (cs : Commands) (text head tail : String) (c : Context) (s : Store),
        cs.lookup "calc" = some Command.calculator → Text.headAndRest text = some (head, tail) →
        s.aliases.resolve s.maxPasses [head] = .ok ("calc" :: words) →
        ∃ b, ((Session.execute cs text).run c s).result = .ok b ∧
          (b = true ↔ ¬ HitsLimit c.host.room (Command.unquote (words ++ Text.words tail))) := by
  have hrejected : ∀ {f : Failure}, f.isFault = true → ∀ e, f ≠ .rejected e := by
    rintro _ hfault e rfl
    cases hfault
  refine ⟨⟨?_, evaluate_of_not_hitsLimit⟩, fun h => ?_, ?_, ?_⟩
  · intro hwell hlimit
    obtain ⟨f, hfault, hf⟩ := evaluate_of_hitsLimit hlimit
    rw [hf] at hwell
    rcases hwell with ⟨line, h⟩ | ⟨e, h⟩
    · cases h
    · exact hrejected hfault e (Except.error.inj h)
  · obtain ⟨f, hfault, hf⟩ := evaluate_of_hitsLimit h
    exact ⟨f, hrejected hfault, hf⟩
  · intro catalogue c s
    have hrun : Command.calculator.run catalogue words = Command.runCalc words := rfl
    rw [hrun]
    rcases Command.result_runCalc words c s with ⟨hlimit, hr⟩ | ⟨hlimit, f, -, hf⟩
    · exact iff_of_true hr hlimit
    · refine iff_of_false ?_ (not_not_intro hlimit)
      rintro ⟨r, hr⟩
      rw [hf] at hr
      cases hr
  · intro cs text head tail c s hcalc hhead hresolve
    exact Session.result_execute_calculator hcalc hhead c hresolve

/-- The power has five thousand digits, which is fewer than powers may have but more than are converted;
its reciprocal would round to zero. In a new session a segment that asks for it fails. -/
theorem evaluate_of_long_reciprocal :
    (∀ room, evaluate room ["99999", "^", "-1000"] = .error (.conversion (.reading 5000))) ∧
      ∀ host, ((Session.fresh Session.builtins .default .empty).perform host
        (Session.execute Session.builtins "calc 99999 ^ -1000")).result = .ok false := by
  have hcalculate : calculate ["99999", "^", "-1000"] = .error (.conversion (.reading 5000)) := by
    decide +kernel
  have hevaluate : ∀ room, evaluate room ["99999", "^", "-1000"] =
      .error (.conversion (.reading 5000)) := by
    intro room
    rw [evaluate, hcalculate]
    rfl
  have hlimit : ∀ room, HitsLimit room ["99999", "^", "-1000"] := by
    intro room
    by_contra h
    rcases evaluate_of_not_hitsLimit h with ⟨line, hline⟩ | ⟨e, he⟩
    · rw [hevaluate] at hline
      cases hline
    · rw [hevaluate] at he
      cases he
  have hcalc : Session.builtins.lookup "calc" = some Command.calculator := rfl
  have hhead : Text.headAndRest "calc 99999 ^ -1000" = some ("calc", "99999 ^ -1000") := by
    decide +kernel
  have hresolve : Alias.Table.empty.resolve Settings.default.maxPasses ["calc"] = .ok ["calc"] := by
    decide +kernel
  have hwords : Command.unquote ([] ++ Text.words "99999 ^ -1000") = ["99999", "^", "-1000"] := by
    decide +kernel
  refine ⟨hevaluate, fun host => ?_⟩
  obtain ⟨b, hb, hiff⟩ := Session.result_execute_calculator hcalc hhead
    ((Session.fresh Session.builtins .default .empty).context host)
    (s := (Session.fresh Session.builtins .default .empty).store) hresolve
  rw [hwords] at hiff
  cases b with
  | false => exact hb
  | true => exact absurd (hlimit _) (hiff.mp rfl)

end Calc

end LineShell
