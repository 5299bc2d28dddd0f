import LineShell.Proofs.Session.Recording
import Mathlib.Data.List.Chain

/-!
# Which segments are executed

The segments of a line are executed one after another, each on the state that the one before it left.
Behind each of them the operator that comes next decides: `&&` lets the line go on after a success and
`||` after a failure, and where an operator does not, the line ends. It ends there altogether. A segment
further behind is not looked at, even if its own operator would let it run.

What was executed is written down as a list of `Execution`s, and `AreExecuted` says which lists a line
can give rise to. The rule for a line is the rule for its first two segments, over and over
(`areExecuted_cons_iff`), and so is the function that runs it.

**Main statement** (`run_eq_ok_iff_exists_executions`): what a line comes to is what the executions of
its segments come to, and there is no other way for a line to come to anything.
-/

namespace LineShell

/-- Behind the first segment of a line every segment has an operator. -/
theorem Segment.exists_ofLine_eq_cons (line : String) :
    ∃ text rest, ofLine line = ⟨none, text⟩ :: rest ∧ ∀ s ∈ rest, s.operator ≠ none := by
  refine ⟨_, _, rfl, ?_⟩
  intro s hs
  obtain ⟨p, -, rfl⟩ := List.mem_map.mp hs
  simp

/-- An act comes to a value behind another exactly when both come to values. -/
theorem Act.run_bind_eq_ok_iff {α β : Type} {x : Act α} {f : α → Act β} {c : Context} {s t : Store}
    {b : β} {es : List Event} :
    (x >>= f).run c s = ⟨.ok b, t, es⟩ ↔
      ∃ a s' es₁ es₂, x.run c s = ⟨.ok a, s', es₁⟩ ∧ (f a).run c s' = ⟨.ok b, t, es₂⟩ ∧
        es = es₁ ++ es₂ := by
  rw [run_bind]
  rcases hx : x.run c s with ⟨r, s', es₁⟩
  cases r with
  | error e => simp
  | ok a =>
      rw [andThen_ok]
      rcases hf : (f a).run c s' with ⟨r, s'', es₂⟩
      constructor
      · intro h
        cases h
        exact ⟨a, s', es₁, es₂, rfl, hf, rfl⟩
      · rintro ⟨a', t', fs₁, fs₂, hx', hf', rfl⟩
        cases hx'
        rw [hf] at hf'
        cases hf'
        rfl

/-- An outcome with events before its own is a value exactly when the outcome is. -/
theorem Outcome.behind_eq_ok_iff {α : Type} {o : Outcome α} {es fs : List Event} {a : α} {t : Store} :
    o.behind es = ⟨.ok a, t, fs⟩ ↔ ∃ gs, o = ⟨.ok a, t, gs⟩ ∧ fs = es ++ gs := by
  obtain ⟨r, s, gs⟩ := o
  rw [behind]
  constructor
  · intro h
    cases h
    exact ⟨gs, rfl, rfl⟩
  · rintro ⟨gs', h, rfl⟩
    cases h
    rfl

namespace Session

/-! ### Executions -/

/-- A segment that was executed, the state that it was executed on, and what it came to. -/
structure Execution where
  /-- The segment. -/
  segment : Segment
  /-- The state before it. -/
  before : Store
  /-- Whether it succeeded. -/
  succeeded : Bool
  /-- The state after it. -/
  after : Store
  /-- What it did to the world outside. -/
  events : List Event

namespace Execution

/-- Whether the segment does come to what is written down. -/
def IsOutcome (cs : Commands) (c : Context) (e : Execution) : Prop :=
  (execute cs e.segment.text).run c e.before = ⟨.ok e.succeeded, e.after, e.events⟩

/-- Whether the line goes on with the next segment: behind `&&` after a success, and behind `||` after
a failure. -/
def GoesOnWith (e : Execution) (next : Segment) : Prop :=
  next.operator = some .andThen ∧ e.succeeded = true ∨
    next.operator = some .orElse ∧ e.succeeded = false

/-- Whether the line ends before the next segment: before `&&` after a failure, and before `||` after a
success. -/
def EndsBefore (e : Execution) (next : Segment) : Prop :=
  next.operator = some .andThen ∧ e.succeeded = false ∨
    next.operator = some .orElse ∧ e.succeeded = true

/-- Whether an execution comes next behind another: on the state that it left, and let through by the
operator in between. -/
def Precedes (e f : Execution) : Prop := f.before = e.after ∧ e.GoesOnWith f.segment

/-- An operator either lets the line go on or ends it. -/
theorem goesOnWith_or_endsBefore (e : Execution) {next : Segment} (h : next.operator ≠ none) :
    e.GoesOnWith next ∨ e.EndsBefore next := by
  obtain ⟨op, hop⟩ := Option.ne_none_iff_exists'.mp h
  unfold GoesOnWith EndsBefore
  cases op <;> cases e.succeeded <;> simp [hop]

/-- Where the line goes on the next segment is executed, and then what follows. -/
theorem GoesOnWith.executeAll_cons {e : Execution} {next : Segment} (h : e.GoesOnWith next)
    (cs : Commands) (rest : List Segment) :
    executeAll cs e.succeeded (next :: rest) =
      execute cs next.text >>= fun b => executeAll cs b rest := by
  have hadmitted : isAdmitted next e.succeeded = true := by
    unfold isAdmitted
    rcases h with ⟨hop, hs⟩ | ⟨hop, hs⟩ <;> rw [hop, hs] <;> rfl
  rw [executeAll, if_pos hadmitted]

/-- Where the line ends nothing is done. -/
theorem EndsBefore.executeAll_cons {e : Execution} {next : Segment} (h : e.EndsBefore next)
    (cs : Commands) (rest : List Segment) :
    executeAll cs e.succeeded (next :: rest) = pure e.succeeded := by
  have hadmitted : isAdmitted next e.succeeded = false := by
    unfold isAdmitted
    rcases h with ⟨hop, hs⟩ | ⟨hop, hs⟩ <;> rw [hop, hs] <;> rfl
  rw [executeAll, if_neg (by simp [hadmitted])]

end Execution

/-! ### The executions of a line -/

/-- Whether these are the executions that come about when segments are executed from a state on. -/
structure AreExecuted (cs : Commands) (c : Context) (s : Store) (segments : List Segment)
    (es : List Execution) : Prop where
  /-- The first segments are executed, each of them once, and in order. -/
  inOrder : es.map Execution.segment <+: segments
  /-- There is a first execution, on the state at hand. -/
  first : ∃ e, es.head? = some e ∧ e.before = s
  /-- Each segment comes to what is written down. -/
  outcomes : ∀ e ∈ es, e.IsOutcome cs c
  /-- Each is executed on the state that the one before left, and let through by its operator. -/
  linked : es.IsChain Execution.Precedes
  /-- If a segment is left, its operator ends the line. -/
  ended : ∀ last next, es.getLast? = some last → segments[es.length]? = some next →
    last.EndsBefore next

/-- One segment is executed if it comes to what is written down, and the line ends behind it. -/
theorem areExecuted_singleton_iff {cs : Commands} {c : Context} {s : Store} {segment : Segment}
    {rest : List Segment} {e : Execution} :
    AreExecuted cs c s (segment :: rest) [e] ↔
      (e.segment = segment ∧ e.before = s ∧ e.IsOutcome cs c) ∧
        ∀ next, rest.head? = some next → e.EndsBefore next := by
  constructor
  · rintro ⟨hsegments, ⟨e', he, hs⟩, houtcomes, -, hended⟩
    cases he
    have hsegment : e.segment = segment := (List.cons_prefix_cons.mp hsegments).1
    refine ⟨⟨hsegment, hs, houtcomes e (by simp)⟩, ?_⟩
    intro next hnext
    exact hended e next rfl (by simpa [List.head?_eq_getElem?] using hnext)
  · rintro ⟨⟨rfl, hs, houtcome⟩, hended⟩
    refine ⟨by simp, ⟨e, rfl, hs⟩, by simpa using houtcome, List.isChain_singleton e, ?_⟩
    intro last next hlast hnext
    cases hlast
    exact hended next (by simpa [List.head?_eq_getElem?] using hnext)

/-- More than one segment is executed if the first comes to what is written down, the line goes on
behind it, and the others are executed from there on. -/
theorem areExecuted_cons_iff {cs : Commands} {c : Context} {s : Store} {segment : Segment}
    {rest : List Segment} {e f : Execution} {es : List Execution} :
    AreExecuted cs c s (segment :: rest) (e :: f :: es) ↔
      (e.segment = segment ∧ e.before = s ∧ e.IsOutcome cs c) ∧
        e.GoesOnWith f.segment ∧ AreExecuted cs c e.after rest (f :: es) := by
  constructor
  · rintro ⟨hsegments, ⟨e', he, hs⟩, houtcomes, hlinked, hended⟩
    cases he
    obtain ⟨hsegment, hrest⟩ := List.cons_prefix_cons.mp hsegments
    obtain ⟨⟨hbefore, hgoes⟩, hlinked⟩ := List.isChain_cons_cons.mp hlinked
    refine ⟨⟨hsegment, hs, houtcomes e (by simp)⟩, hgoes, hrest, ⟨f, rfl, hbefore⟩, ?_, hlinked, ?_⟩
    · exact fun e' he' => houtcomes e' (List.mem_cons_of_mem _ he')
    · intro last next hlast hnext
      exact hended last next (by simpa using hlast) (by simpa using hnext)
  · rintro ⟨⟨rfl, hs, houtcome⟩, hgoes, hrest, ⟨e', he', hbefore⟩, houtcomes, hlinked, hended⟩
    cases he'
    refine ⟨List.cons_prefix_cons.mpr ⟨rfl, hrest⟩, ⟨e, rfl, hs⟩, ?_,
      List.isChain_cons_cons.mpr ⟨⟨hbefore, hgoes⟩, hlinked⟩, ?_⟩
    · intro e' he'
      rcases List.mem_cons.mp he' with rfl | he'
      · exact houtcome
      · exact houtcomes e' he'
    · intro last next hlast hnext
      exact hended last next (by simpa using hlast) (by simpa using hnext)

/-- What is left behind executions: the outcome of the last one, and all that they did. -/
def Leaves (es : List Execution) (b : Bool) (t : Store) (events : List Event) : Prop :=
  ∃ last, es.getLast? = some last ∧ b = last.succeeded ∧ t = last.after ∧
    events = es.flatMap Execution.events

/-- **Segments that come to something are executed.** -/
theorem exists_areExecuted {cs : Commands} {c : Context} (segment : Segment) {rest : List Segment}
    (hrest : ∀ s ∈ rest, s.operator ≠ none) {s t : Store} {b : Bool} {events : List Event}
    (h : (execute cs segment.text >>= fun b => executeAll cs b rest).run c s =
      ⟨.ok b, t, events⟩) :
    ∃ es, AreExecuted cs c s (segment :: rest) es ∧ Leaves es b t events := by
  -- over the segments behind the first, which is executed in any case
  induction rest generalizing segment s events with
  | nil =>
      obtain ⟨a, s', es₁, es₂, hfirst, hlater, rfl⟩ := Act.run_bind_eq_ok_iff.mp h
      cases hlater
      let e : Execution := ⟨segment, s, b, t, es₁⟩
      refine ⟨[e], ?_, e, rfl, rfl, rfl, by simp [e]⟩
      exact areExecuted_singleton_iff.mpr ⟨⟨rfl, rfl, hfirst⟩, by simp⟩
  | cons next rest ih =>
      obtain ⟨a, s', es₁, es₂, hfirst, hlater, rfl⟩ := Act.run_bind_eq_ok_iff.mp h
      let e : Execution := ⟨segment, s, a, s', es₁⟩
      have hlater : (executeAll cs e.succeeded (next :: rest)).run c e.after = ⟨.ok b, t, es₂⟩ :=
        hlater
      rcases e.goesOnWith_or_endsBefore (hrest next List.mem_cons_self) with hgoes | hends
      · rw [hgoes.executeAll_cons] at hlater
        obtain ⟨es, hes, last, hlast, rfl, rfl, rfl⟩ :=
          ih next (fun s hs => hrest s (List.mem_cons_of_mem _ hs)) hlater
        cases es with
        | nil => cases hlast
        | cons f es =>
            have hf : f.segment = next := (List.cons_prefix_cons.mp hes.inOrder).1
            refine ⟨e :: f :: es, areExecuted_cons_iff.mpr ⟨⟨rfl, rfl, hfirst⟩, hf ▸ hgoes, hes⟩,
              last, by simpa using hlast, rfl, rfl, by simp [e]⟩
      · rw [hends.executeAll_cons] at hlater
        cases hlater
        refine ⟨[e], areExecuted_singleton_iff.mpr ⟨⟨rfl, rfl, hfirst⟩, ?_⟩, e, rfl, rfl, rfl,
          by simp [e]⟩
        intro next' hnext'
        cases hnext'
        exact hends

/-- **Segments that are executed come to what they leave behind.** -/
theorem AreExecuted.run_eq {cs : Commands} {c : Context} {segment : Segment} {rest : List Segment}
    {s t : Store} {b : Bool} {events : List Event} {es : List Execution}
    (h : AreExecuted cs c s (segment :: rest) es) (hleft : Leaves es b t events) :
    (execute cs segment.text >>= fun b => executeAll cs b rest).run c s = ⟨.ok b, t, events⟩ := by
  obtain ⟨last, hlast, rfl, rfl, rfl⟩ := hleft
  -- over the executions: there is one for each step, but not for each segment
  induction es generalizing segment rest s with
  | nil => cases hlast
  | cons e es ih =>
      cases es with
      | nil =>
          obtain rfl : e = last := by simpa using hlast
          obtain ⟨⟨rfl, rfl, houtcome⟩, hended⟩ := areExecuted_singleton_iff.mp h
          refine Act.run_bind_eq_ok_iff.mpr ⟨_, _, _, [], houtcome, ?_, by simp⟩
          cases rest with
          | nil => rfl
          | cons next rest => rw [(hended next rfl).executeAll_cons, Act.run_pure]
      | cons f es =>
          obtain ⟨⟨rfl, rfl, houtcome⟩, hgoes, hes⟩ := areExecuted_cons_iff.mp h
          refine Act.run_bind_eq_ok_iff.mpr ⟨_, _, _, _, houtcome, ?_, rfl⟩
          obtain ⟨rest, rfl⟩ : ∃ rest', rest = f.segment :: rest' := by
            obtain ⟨rest', hrest'⟩ := hes.inOrder
            exact ⟨_, hrest'.symm⟩
          rw [hgoes.executeAll_cons]
          exact ih hes (by simpa using hlast)

/-! ### One line -/

/-- The first segment of a line is executed in any case, and then what follows. -/
theorem executeAll_first (cs : Commands) (text : String) (rest : List Segment) :
    executeAll cs true (⟨none, text⟩ :: rest) =
      execute cs text >>= fun b => executeAll cs b rest := by
  rw [executeAll, if_pos (by rfl)]

/-- **What the segments of a recorded line come to** is what the executions among them leave behind. -/
theorem segmentsOf_eq_ok_iff (s : Session) (host : Host) (line : String) {b : Bool} {t : Store}
    {events : List Event} :
    s.segmentsOf host line = ⟨.ok b, t, events⟩ ↔
      ∃ es, AreExecuted s.commands (s.context host)
          { s.store with history := s.store.history.add line } (Segment.ofLine line) es ∧
        Leaves es b t events := by
  obtain ⟨text, rest, hcut, hrest⟩ := Segment.exists_ofLine_eq_cons line
  rw [segmentsOf, hcut, executeAll_first]
  constructor
  · exact exists_areExecuted ⟨none, text⟩ hrest
  · rintro ⟨es, hes, hleft⟩
    exact hes.run_eq hleft

/-- **What a line comes to.** A line that is not blank comes to a value exactly when it can be expanded
and the segments of the expanded line are executed from the state in which it is recorded: the first
segment, and behind each of them the next one as long as its operator lets the line go on, each once, in
order, and on the state that the one before left. The line then comes to the outcome of the last segment
that was executed. It leaves the state that this one left, and what it does to the world outside is to
echo the line, if it is not the one that was typed, and what the executed segments do. -/
theorem run_eq_ok_iff_exists_executions (s : Session) (host : Host) {raw : String}
    (hblank : Text.isBlankText raw = false) (b : Bool) (after : Store) (events : List Event) :
    s.run host raw = ⟨.ok b, after, events⟩ ↔
      ∃ line es last,
        s.store.history.expand raw = .ok line ∧
        AreExecuted s.commands (s.context host)
          { s.store with history := s.store.history.add line } (Segment.ofLine line) es ∧
        es.getLast? = some last ∧ b = last.succeeded ∧ after = last.after ∧
        events = echo raw line ++ es.flatMap Execution.events := by
  constructor
  · intro h
    obtain ⟨line, hline⟩ := exists_expand_of_run hblank (congrArg Outcome.result h)
    rw [run_of_expand host hblank hline, Outcome.behind_eq_ok_iff] at h
    obtain ⟨fs, hsegments, rfl⟩ := h
    obtain ⟨es, hes, last, hlast, rfl, rfl, rfl⟩ := (segmentsOf_eq_ok_iff s host line).mp hsegments
    exact ⟨line, es, last, hline, hes, hlast, rfl, rfl, rfl⟩
  · rintro ⟨line, es, last, hline, hes, hlast, rfl, rfl, rfl⟩
    rw [run_of_expand host hblank hline, Outcome.behind_eq_ok_iff]
    exact ⟨_, (segmentsOf_eq_ok_iff s host line).mpr ⟨es, hes, last, hlast, rfl, rfl, rfl⟩, rfl⟩

/-- The first segment defines an alias, the second fails, and the third is not executed. Nor is the
fourth, although its operator would let it run behind a failure. -/
theorem run_ends_before_third_segment :
    ∃ es last, AreExecuted builtins ((fresh builtins .default .empty).context emptyHost)
        { (fresh builtins .default .empty).store with
          history := ⟨["alias a b && nope && alias c d || alias"]⟩ }
        [⟨none, "alias a b"⟩, ⟨some .andThen, "nope"⟩, ⟨some .andThen, "alias c d"⟩,
          ⟨some .orElse, "alias"⟩] es ∧
      es.getLast? = some last ∧ last.succeeded = false ∧
      last.after.aliases.entries = [("a", "b")] := by
  let s := fresh builtins .default .empty
  let raw := "alias a b && nope && alias c d || alias"
  have hrun : s.run emptyHost raw =
      ⟨.ok false, (s.run emptyHost raw).store, (s.run emptyHost raw).events⟩ := by
    have hresult : (s.run emptyHost raw).result = .ok false := by decide +kernel
    rw [← hresult]
  have hblank : Text.isBlankText raw = false := by decide +kernel
  obtain ⟨line, es, last, hline, hes, hlast, hb, hafter, -⟩ :=
    (run_eq_ok_iff_exists_executions s emptyHost hblank false _ _).mp hrun
  have hexpand : s.store.history.expand raw = .ok raw := by decide +kernel
  rw [hexpand] at hline
  cases hline
  have hsegments : Segment.ofLine raw = [⟨none, "alias a b"⟩, ⟨some .andThen, "nope"⟩,
      ⟨some .andThen, "alias c d"⟩, ⟨some .orElse, "alias"⟩] := by decide +kernel
  rw [hsegments] at hes
  refine ⟨es, last, hes, hlast, hb.symm, ?_⟩
  rw [← hafter]
  decide +kernel

end Session

end LineShell
