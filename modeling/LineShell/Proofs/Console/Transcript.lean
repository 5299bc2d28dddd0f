import LineShell.Console.Run
import LineShell.Proofs.Session.Recording
import LineShell.Proofs.Settings.Loading
import Mathlib.Data.List.Chain

/-!
# What a console does with its input

A console hands the lines of its input to the session, one after another, up to the first that says to
leave, or to the first interruption: from the keyboard while it waits, of a child that a line has started,
or the end of the input. It adds nothing of its own but the greeting, a prompt for each line that it waits
for, and a line end where it was interrupted.

What it did is a list of turns (`Console.Turn`), the lines that were run, each with the state on which it
was run. That they are the right ones is said without the console (`Console.AreTurns`), and what goes out
is then read off them (`Console.AreTurns.runAmid_eq`). The world outside may be another one at each line.

Two settings keep a console from all this: a level with one of two names, with which it does not start, and
a prompt with a surrogate in it, which it cannot write.

**Main statement** (`Console.start_run_eq_session`): this, from the start on.
-/

namespace LineShell

namespace Console

/-! ### Each line in a world of its own -/

/-- What comes in, and the surroundings that it finds. -/
abbrev Arrival := Surroundings × Input

/-- All that goes out for inputs in the surroundings that each of them finds, and how the console ends. -/
def runAmid (c : Console) (arrivals : List Arrival) : List Effect × Ending :=
  match c.prompt? with
  | none => ([], .unwritable c.session.settings.prompt)
  | some prompt => match arrivals with
    | [] => ([.out prompt, .out "\n"], .left)
    | (w, i) :: arrivals => match step w c i with
      | (effects, .inr e) => (.out prompt :: effects, e)
      | (effects, .inl d) =>
          (.out prompt :: effects ++ (runAmid d arrivals).1, (runAmid d arrivals).2)

/-- A prompt that cannot be written ends the console. -/
theorem runAmid_of_unwritable {c : Console} (h : c.prompt? = none) (arrivals : List Arrival) :
    runAmid c arrivals = ([], .unwritable c.session.settings.prompt) := by
  rw [runAmid, h]

/-- Behind the prompt what comes in first is taken. -/
theorem runAmid_cons {c : Console} {prompt : String} (h : c.prompt? = some prompt) (w : Surroundings)
    (i : Input) (arrivals : List Arrival) :
    runAmid c ((w, i) :: arrivals) = match step w c i with
      | (effects, .inr e) => (.out prompt :: effects, e)
      | (effects, .inl d) =>
          (.out prompt :: effects ++ (runAmid d arrivals).1, (runAmid d arrivals).2) := by
  rw [runAmid, h]

/-- Surroundings that stay as they are are those of all inputs. -/
theorem runAmid_map (w : Surroundings) (c : Console) (is : List Input) :
    runAmid c (is.map (w, ·)) = run w c is := by
  induction is generalizing c with
  | nil =>
      cases hprompt : c.prompt? with
      | none => simp [runAmid, run, hprompt]
      | some prompt => simp [runAmid, run, hprompt]
  | cons i is ih =>
      rw [List.map_cons, runAmid, run]
      cases c.prompt? with
      | none => rfl
      | some prompt =>
          simp only []
          rcases step w c i with ⟨effects, d | e⟩
          · simp only [ih]
          · rfl

/-! ### Turns -/

/-- A line that was run, the surroundings that it found, and the state on which it was run. -/
structure Turn where
  /-- The surroundings. -/
  surroundings : Surroundings
  /-- The line. -/
  line : String
  /-- The state before it. -/
  before : Store

namespace Turn

/-- What came in. -/
def arrival (t : Turn) : Arrival := (t.surroundings, .line t.line)

/-- What the line comes to in a session that has got to the state before it. -/
def outcome (s : Session) (t : Turn) : Outcome Bool :=
  (s.withStore t.before).run t.surroundings.host t.line

/-- Whether the line comes to a value. -/
def Returns (s : Session) (t : Turn) : Prop := ∃ b, (t.outcome s).result = .ok b

/-- Whether a turn comes next behind another, on the state that it left. -/
def Precedes (s : Session) (t u : Turn) : Prop := t.Returns s ∧ u.before = (t.outcome s).store

end Turn

/-- Why a console stops. -/
inductive Stop where
  /-- A line says to leave. -/
  | exitWord
  /-- It is interrupted from the keyboard while it waits. -/
  | interrupt
  /-- The input has ended. -/
  | endOfInput
  /-- It is told to terminate. -/
  | terminated
  /-- A child that a line has started is interrupted. -/
  | interruptedChild
  /-- A fault of another kind ends a line. -/
  | fault (e : Fault)
deriving DecidableEq, Repr

namespace Stop

/-- Why a console stops at what comes in next, if it does. -/
def at? : Option Arrival → Option Stop
  | none => some endOfInput
  | some (_, .interrupt) => some interrupt
  | some (_, .terminate) => some terminated
  | some (_, .line text) => if leaves text then some exitWord else none

/-- Why a console stops behind a line that a fault has ended. -/
def ofFault (e : Fault) : Stop := if e.isInterrupt then interruptedChild else fault e

/-- Whether the console has waited for a line once more. -/
def waits : Stop → Bool
  | interruptedChild => false
  | fault _ => false
  | _ => true

/-- Whether the line of the prompt is ended. -/
def breaksLine : Stop → Bool
  | interrupt => true
  | endOfInput => true
  | interruptedChild => true
  | _ => false

/-- How the console ends. -/
def ending : Stop → Ending
  | terminated => .terminated
  | fault e => .fault e
  | _ => .left

/-- What goes out behind the last line that is run. -/
def closing (prompt : String) (stop : Stop) : List String :=
  (if stop.waits then [prompt] else []) ++ if stop.breaksLine then ["\n"] else []

end Stop

/-- Whether these are the lines that are run of what comes in, from a session on, and this is why there are
no more. -/
structure AreTurns (s : Session) (arrivals : List Arrival) (ts : List Turn) (stop : Stop) : Prop where
  /-- What comes in first is run, each line once, and in order. -/
  inOrder : ts.map Turn.arrival <+: arrivals
  /-- None of the lines says to leave. -/
  stay : ∀ t ∈ ts, leaves t.line = false
  /-- The first line is run on the state of the session. -/
  first : ∀ t, ts.head? = some t → t.before = s.store
  /-- Each line is run on the state that the one before left when it came to a value. -/
  linked : ts.IsChain (Turn.Precedes s)
  /-- The console stops at what comes in next, or behind the last line because of a fault. -/
  ended : (∀ t ∈ ts, t.Returns s) ∧ Stop.at? arrivals[ts.length]? = some stop ∨
    ∃ last e, ts.getLast? = some last ∧ (last.outcome s).result = .error e ∧ stop = .ofFault e

variable {s : Session} {arrivals : List Arrival} {ts : List Turn} {stop : Stop}

/-- No line is run where the console stops at what comes in first. -/
theorem areTurns_nil_iff : AreTurns s arrivals [] stop ↔ Stop.at? arrivals.head? = some stop := by
  rw [List.head?_eq_getElem?]
  constructor
  · rintro ⟨-, -, -, -, ⟨-, hstop⟩ | ⟨last, e, hlast, -⟩⟩
    · exact hstop
    · cases hlast
  · intro hstop
    exact ⟨List.nil_prefix, by simp, by simp, .nil, .inl ⟨by simp, hstop⟩⟩

/-- A line is run, and then others from the state on that it leaves, if it comes to a value; otherwise no
other is. -/
theorem areTurns_cons_iff {t : Turn} :
    AreTurns s arrivals (t :: ts) stop ↔
      ∃ rest, arrivals = t.arrival :: rest ∧ leaves t.line = false ∧ t.before = s.store ∧
        (t.Returns s ∧ AreTurns (s.withStore (t.outcome s).store) rest ts stop ∨
          ts = [] ∧ ∃ e, (t.outcome s).result = .error e ∧ stop = .ofFault e) := by
  constructor
  · rintro ⟨inOrder, stay, first, linked, ended⟩
    obtain ⟨rest, rfl, hrest⟩ := List.cons_prefix_iff.mp inOrder
    refine ⟨rest, rfl, stay t List.mem_cons_self, first t rfl, ?_⟩
    have hstay : ∀ u ∈ ts, leaves u.line = false := fun u hu => stay u (List.mem_cons_of_mem _ hu)
    cases ts with
    | nil =>
        rcases ended with ⟨hreturns, hstop⟩ | ⟨last, e, hlast, he, hstop⟩
        · exact .inl ⟨hreturns t (by simp), hrest, hstay, by simp, .nil, .inl ⟨by simp, hstop⟩⟩
        · cases hlast
          exact .inr ⟨rfl, e, he, hstop⟩
    | cons u us =>
        obtain ⟨⟨hreturns, hbefore⟩, hlinked⟩ := List.isChain_cons_cons.mp linked
        refine .inl ⟨hreturns, hrest, hstay, ?_, hlinked, ?_⟩
        · rintro _ ⟨⟩
          exact hbefore
        · rcases ended with ⟨hall, hstop⟩ | ⟨last, e, hlast, he, hstop⟩
          · exact .inl ⟨fun v hv => hall v (List.mem_cons_of_mem _ hv), hstop⟩
          · exact .inr ⟨last, e, by simpa using hlast, he, hstop⟩
  · rintro ⟨rest, rfl, hleaves, hbefore, ⟨hreturns, hrest, hstay, hfirst, hlinked, hended⟩ |
      ⟨rfl, e, he, hstop⟩⟩
    · refine ⟨List.cons_prefix_cons.mpr ⟨rfl, hrest⟩, ?_, ?_, ?_, ?_⟩
      · rintro u hu
        rcases List.mem_cons.mp hu with rfl | hu
        · exact hleaves
        · exact hstay u hu
      · rintro _ ⟨⟩
        exact hbefore
      · cases ts with
        | nil => exact List.isChain_singleton t
        | cons u us => exact List.isChain_cons_cons.mpr ⟨⟨hreturns, hfirst u rfl⟩, hlinked⟩
      · rcases hended with ⟨hall, hstop⟩ | ⟨last, e, hlast, he, hstop⟩
        · refine .inl ⟨?_, hstop⟩
          intro u hu
          rcases List.mem_cons.mp hu with rfl | hu
          · exact hreturns
          · exact hall u hu
        · refine .inr ⟨last, e, ?_, he, hstop⟩
          rw [List.getLast?_cons, hlast]
          rfl
    · refine ⟨by simp, by simpa using hleaves, ?_, List.isChain_singleton t, ?_⟩
      · rintro _ ⟨⟩
        exact hbefore
      · exact .inr ⟨t, e, rfl, he, hstop⟩

/-- **There are such lines**, whatever comes in. -/
theorem exists_areTurns (s : Session) (arrivals : List Arrival) :
    ∃ ts stop, AreTurns s arrivals ts stop := by
  induction arrivals generalizing s with
  | nil => exact ⟨[], .endOfInput, areTurns_nil_iff.mpr rfl⟩
  | cons p arrivals ih =>
      cases hstop : Stop.at? (some p) with
      | some stop => exact ⟨[], stop, areTurns_nil_iff.mpr hstop⟩
      | none =>
          -- only a line that does not say to leave is run
          obtain ⟨w, text, rfl, hleaves⟩ : ∃ w text, p = (w, .line text) ∧ leaves text = false := by
            obtain ⟨w, i⟩ := p
            cases i with
            | line text => exact ⟨w, text, rfl, by simpa [Stop.at?] using hstop⟩
            | interrupt | terminate => cases hstop
          let t : Turn := ⟨w, text, s.store⟩
          cases hresult : (t.outcome s).result with
          | ok b =>
              obtain ⟨ts, stop, hts⟩ := ih (s.withStore (t.outcome s).store)
              exact ⟨t :: ts, stop,
                areTurns_cons_iff.mpr ⟨arrivals, rfl, hleaves, rfl, .inl ⟨⟨b, hresult⟩, hts⟩⟩⟩
          | error e =>
              exact ⟨[t], .ofFault e,
                areTurns_cons_iff.mpr ⟨arrivals, rfl, hleaves, rfl, .inr ⟨rfl, e, hresult, rfl⟩⟩⟩

/-! ### What goes out -/

/-- What goes out for the events of a line that is run. -/
def effectsOfLine (c : Console) (t : Turn) : List Effect :=
  (t.outcome c.session).events.flatMap (effectsOf t.surroundings.stamp c.showsNotes)

/-- What goes out for a line that is run: the prompt, and what its events are worth. -/
def effectsOfTurn (c : Console) (prompt : String) (t : Turn) : List Effect :=
  .out prompt :: c.effectsOfLine t

/-- The console that goes on from the state that a line has left. -/
def afterTurn (c : Console) (t : Turn) : Console :=
  { c with session := c.session.withStore (t.outcome c.session).store }

variable {c : Console} {prompt : String} {t : Turn}

/-- A line that does not say to leave is run. -/
theorem step_of_stays (hleaves : leaves t.line = false) (hbefore : t.before = c.session.store) :
    step t.surroundings c (.line t.line) =
      (c.effectsOfLine t ++ (c.afterLine (t.outcome c.session)).1,
        (c.afterLine (t.outcome c.session)).2) := by
  have houtcome : t.outcome c.session = c.session.run t.surroundings.host t.line := by
    rw [Turn.outcome, hbefore]
    rfl
  rw [effectsOfLine, houtcome, step, hleaves]
  rfl

/-- Behind a line that comes to a value the console goes on. -/
theorem step_of_returns (hleaves : leaves t.line = false) (hbefore : t.before = c.session.store)
    (h : t.Returns c.session) :
    step t.surroundings c (.line t.line) = (c.effectsOfLine t, .inl (c.afterTurn t)) := by
  obtain ⟨b, hb⟩ := h
  rw [step_of_stays hleaves hbefore, afterTurn]
  rcases houtcome : t.outcome c.session with ⟨r, u, es⟩
  rw [houtcome] at hb
  obtain rfl : r = .ok b := hb
  simp [afterLine]

/-- Behind a line that a fault ends the console stops. -/
theorem step_of_error (hleaves : leaves t.line = false) (hbefore : t.before = c.session.store)
    {e : Fault} (h : (t.outcome c.session).result = .error e) (prompt : String) :
    step t.surroundings c (.line t.line) =
      (c.effectsOfLine t ++ ((Stop.ofFault e).closing prompt).map .out,
        .inr (Stop.ofFault e).ending) := by
  rw [step_of_stays hleaves hbefore]
  rcases houtcome : t.outcome c.session with ⟨r, u, es⟩
  rw [houtcome] at h
  obtain rfl : r = .error e := h
  cases hinterrupt : e.isInterrupt <;>
    simp [afterLine, Stop.ofFault, hinterrupt, Stop.closing, Stop.waits, Stop.breaksLine, Stop.ending]

/-- Where no line is run for what comes in first, the prompt goes out and the console stops. -/
theorem runAmid_of_at? (hprompt : c.prompt? = some prompt) (h : Stop.at? arrivals.head? = some stop) :
    runAmid c arrivals = ((stop.closing prompt).map .out, stop.ending) := by
  cases arrivals with
  | nil =>
      cases h
      rw [runAmid, hprompt]
      rfl
  | cons p arrivals =>
      obtain ⟨w, i⟩ := p
      rw [runAmid_cons hprompt]
      cases i with
      | interrupt | terminate =>
          cases h
          rfl
      | line text =>
          simp only [List.head?_cons, Stop.at?] at h
          split at h
          · next hleaves =>
            cases h
            rw [step_line_of_leaves hleaves]
            rfl
          · cases h

/-- **What goes out is read off the lines that are run**, if the prompt can be written. -/
theorem AreTurns.runAmid_eq (hprompt : c.prompt? = some prompt)
    (h : AreTurns c.session arrivals ts stop) :
    runAmid c arrivals =
      (ts.flatMap (c.effectsOfTurn prompt) ++ (stop.closing prompt).map .out, stop.ending) := by
  induction ts generalizing c arrivals with
  | nil => exact runAmid_of_at? hprompt (areTurns_nil_iff.mp h)
  | cons t ts ih =>
      obtain ⟨rest, rfl, hleaves, hbefore, ⟨hreturns, hrest⟩ | ⟨rfl, e, he, rfl⟩⟩ :=
        areTurns_cons_iff.mp h
      · have hsame : (c.afterTurn t).prompt? = some prompt := hprompt
        have hih : runAmid (c.afterTurn t) rest = (ts.flatMap (c.effectsOfTurn prompt) ++ _, _) :=
          ih hsame hrest
        rw [Turn.arrival, runAmid_cons hprompt, step_of_returns hleaves hbefore hreturns]
        simp only [hih, List.flatMap_cons, effectsOfTurn, List.append_assoc, List.cons_append]
      · rw [Turn.arrival, runAmid_cons hprompt, step_of_error hleaves hbefore he prompt]
        simp [effectsOfTurn]

/-- The texts that are written to the output. -/
def outputs (effects : List Effect) : List String :=
  effects.filterMap fun
    | .out text => some text
    | _ => none

@[simp] theorem outputs_append (es fs : List Effect) : outputs (es ++ fs) = outputs es ++ outputs fs :=
  List.filterMap_append

@[simp] theorem outputs_map_out (texts : List String) : outputs (texts.map .out) = texts := by
  simp [outputs, List.filterMap_map]

/-- Diagnostics are no output. -/
theorem outputs_map_err {α : Type} (text : α → String) (as : List α) :
    outputs (as.map fun a => .err (text a)) = [] := by
  simp [outputs]

/-- Of the events of a session the texts that it writes get to the output, each as a line. -/
theorem outputs_flatMap_effectsOf (stamp : String) (showsNotes : Bool) (es : List Event) :
    outputs (es.flatMap (effectsOf stamp showsNotes)) = (Event.outputs es).map lineOf := by
  induction es with
  | nil => rfl
  | cons e es ih =>
      rw [List.flatMap_cons, outputs_append, ih]
      cases e with
      | note n => cases showsNotes <;> rfl
      | out text | err text | call commandLine shell => rfl

/-- What a line that is run has on the output: the prompt, and what the session writes. -/
def outputsOfTurn (c : Console) (prompt : String) (t : Turn) : List String :=
  prompt :: (Event.outputs (t.outcome c.session).events).map lineOf

/-- The output of the lines that are run. -/
theorem outputs_flatMap_effectsOfTurn (c : Console) (prompt : String) (ts : List Turn) :
    outputs (ts.flatMap (c.effectsOfTurn prompt)) = ts.flatMap (c.outputsOfTurn prompt) := by
  induction ts with
  | nil => rfl
  | cons t ts ih =>
      rw [List.flatMap_cons, List.flatMap_cons, outputs_append, ih, outputsOfTurn,
        ← outputs_flatMap_effectsOf t.surroundings.stamp c.showsNotes]
      rfl

/-- A console that is not told to terminate is left, unless a line ends with another fault than an
interruption. -/
theorem AreTurns.ending_eq_left (h : AreTurns s arrivals ts stop)
    (hterminate : ∀ p ∈ arrivals, p.2 ≠ .terminate)
    (hfaults : ∀ t ∈ ts, ∀ e, (t.outcome s).result = .error e → e.isInterrupt = true) :
    stop.ending = .left := by
  rcases h.ended with ⟨-, hstop⟩ | ⟨last, e, hlast, he, rfl⟩
  · cases harrival : arrivals[ts.length]? with
    | none =>
        rw [harrival] at hstop
        cases hstop
        rfl
    | some p =>
        obtain ⟨w, i⟩ := p
        rw [harrival] at hstop
        cases i with
        | line text =>
            rw [Stop.at?] at hstop
            split at hstop <;> cases hstop
            rfl
        | interrupt =>
            cases hstop
            rfl
        | terminate => exact absurd rfl (hterminate _ (List.mem_of_getElem? harrival))
  · rw [Stop.ofFault, if_pos (hfaults last (List.mem_of_getLast? hlast) e he)]
    rfl

end Console

/-! ### Starting -/

namespace Level

/-- The name of the level that is asked for: by the environment, else by the settings, else the common
one. -/
def requested (environment settings : Option WideText) : WideText :=
  match environment with
  | some name => if name.isEmpty then settings.getD "WARNING" else name
  | none => settings.getD "WARNING"

/-- The names that stand for something else than a level. -/
def refusedNames : List WideText := ["BASIC_FORMAT", "_STYLES"]

/-- The level that is set is the one of the name that is asked for. -/
theorem choose_eq_ofName (environment settings : Option WideText) :
    choose environment settings = ofName (requested environment settings) := by
  cases environment with
  | none => rfl
  | some name =>
      simp only [choose, requested]
      split <;> rfl

/-- Every name in capitals but two has a level. -/
theorem exists_ofCapitals_iff {capitals : String} :
    (∃ n, ofCapitals capitals = .ok n) ↔ WideText.ofString capitals ∉ refusedNames := by
  simp only [refusedNames, List.mem_cons, List.not_mem_nil, or_false, WideText.ofString_inj]
  rw [ofCapitals]
  cases hlookup : names.lookup capitals with
  | some n =>
      have hnot : ¬ (capitals = "BASIC_FORMAT" ∨ capitals = "_STYLES") := by
        rintro (rfl | rfl)
        · cases hlookup
        · cases hlookup
      exact iff_of_true ⟨n, rfl⟩ hnot
  | none =>
      by_cases hlayout : capitals = "BASIC_FORMAT"
      · simp [hlayout]
      · by_cases hlayouts : capitals = "_STYLES"
        · simp [hlayouts]
        · simp [hlayout, hlayouts]

/-- Every name but two has a level; surrogates in it make it none of the two. -/
theorem exists_ofName_iff {name : WideText} :
    (∃ n, ofName name = .ok n) ↔ name.upper ∉ refusedNames := by
  rw [ofName]
  cases hcapitals : name.upper.toString? with
  | some capitals => rw [← WideText.ofString_of_toString? hcapitals, exists_ofCapitals_iff]
  | none =>
      refine iff_of_true ⟨common, rfl⟩ fun hmem => ?_
      have hsome : ∀ t ∈ refusedNames, t.toString? ≠ none := by decide
      exact hsome _ hmem hcapitals

end Level

namespace Console

/-- A console starts with the session and the level, and what goes out is the warnings and the greeting. -/
theorem start_eq_ok_iff {w : Surroundings} {disk : Disk} {effects : List Effect} {c : Console} :
    start w disk = (effects, .ok c) ↔
      ∃ s n, (Session.start w.nesting disk (some Settings.defaultPath)).result = .ok s ∧
        Level.choose w.level s.settings.logLevel = .ok n ∧ c = ⟨s, Level.showsNotes n⟩ ∧
        effects = (Session.start w.nesting disk (some Settings.defaultPath)).warnings.map
          (fun warning => .err (lineOf warning.message.escaped)) ++ [.out (greeting s.commands)] := by
  rw [start]
  cases (Session.start w.nesting disk (some Settings.defaultPath)).result with
  | error e => simp
  | ok s =>
      cases hlevel : Level.choose w.level s.settings.logLevel with
      | error e => simp [ofSession, hlevel]
      | ok n => simp [ofSession, hlevel, eq_comm, and_comm]

/-- A console starts exactly when there are settings and the name of the level is not refused. -/
theorem exists_start_iff {w : Surroundings} {disk : Disk} :
    (∃ effects c, start w disk = (effects, .ok c)) ↔
      ∃ s, (Session.start w.nesting disk (some Settings.defaultPath)).result = .ok s ∧
        (Level.requested w.level s.settings.logLevel).upper ∉ Level.refusedNames := by
  simp only [start_eq_ok_iff, ← Level.exists_ofName_iff, ← Level.choose_eq_ofName]
  constructor
  · rintro ⟨effects, c, s, n, hs, hn, -, -⟩
    exact ⟨s, hs, n, hn⟩
  · rintro ⟨s, hs, n, hn⟩
    exact ⟨_, _, s, n, hs, hn, rfl, rfl⟩

/-- **What a console does.** It starts exactly when there are settings and the name of the level that is
asked for is not one of two. Then its session is the one that has started, and the greeting is what it
writes. If its prompt cannot be written, that is all that it does, whatever comes in, and the exit code is
not zero. Otherwise, whatever comes in after that, in whatever surroundings: lines and interruptions from
the keyboard, the lines that are run are those before the first one that says to leave, or before an
interruption or the end of the input, or up to the one that is interrupted itself, each once, in order, and
on the state that the one before left. If no line ends with another fault than an interruption, then all
that goes out is, for each of them, the prompt and what its events are worth, and the prompt once more if
the console has waited in vain, and a line end if it was interrupted; and the exit code is zero. -/
theorem start_run_eq_session (w : Surroundings) (disk : Disk) :
    ((∃ effects c, start w disk = (effects, .ok c)) ↔
      ∃ s, (Session.start w.nesting disk (some Settings.defaultPath)).result = .ok s ∧
        (Level.requested w.level s.settings.logLevel).upper ∉ Level.refusedNames) ∧
    ∀ effects c, start w disk = (effects, .ok c) →
      (Session.start w.nesting disk (some Settings.defaultPath)).result = .ok c.session ∧
      outputs effects = [greeting c.session.commands] ∧
      (∀ v is, run v c is = runAmid c (is.map (v, ·))) ∧
      (c.session.settings.prompt.toString? = none → ∀ arrivals,
        (runAmid c arrivals).1 = [] ∧ (runAmid c arrivals).2.exitCode ≠ 0) ∧
      ∀ prompt : String, c.session.settings.prompt = prompt →
      ∀ arrivals : List Arrival, (∀ p ∈ arrivals, p.2 ≠ .terminate) →
        (∃ ts stop, AreTurns c.session arrivals ts stop) ∧
        ∀ ts stop, AreTurns c.session arrivals ts stop →
          (∀ t ∈ ts, ∀ e, (t.outcome c.session).result = .error e → e.isInterrupt = true) →
          (runAmid c arrivals).1 =
            ts.flatMap (c.effectsOfTurn prompt) ++ (stop.closing prompt).map .out ∧
          outputs (runAmid c arrivals).1 = ts.flatMap (c.outputsOfTurn prompt) ++ stop.closing prompt ∧
          (runAmid c arrivals).2.exitCode = 0 := by
  refine ⟨exists_start_iff, ?_⟩
  intro effects c hstart
  obtain ⟨s, n, hs, -, rfl, rfl⟩ := start_eq_ok_iff.mp hstart
  refine ⟨hs, ?_, fun v is => (runAmid_map v _ is).symm, fun hunwritable arrivals => ?_, ?_⟩
  · rw [outputs_append, outputs_map_err]
    rfl
  · rw [runAmid_of_unwritable hunwritable]
    exact ⟨rfl, Nat.one_ne_zero⟩
  · intro prompt hsettings arrivals hterminate
    refine ⟨exists_areTurns s arrivals, ?_⟩
    intro ts stop hturns hfaults
    have hprompt : prompt? ⟨s, Level.showsNotes n⟩ = some prompt := by
      replace hsettings : s.settings.prompt = prompt := hsettings
      rw [prompt?, hsettings, WideText.toString?_ofString]
    rw [hturns.runAmid_eq hprompt, hturns.ending_eq_left hterminate hfaults]
    refine ⟨rfl, ?_, rfl⟩
    rw [outputs_append, outputs_map_out, outputs_flatMap_effectsOfTurn]

/-- A calculation, and then a line that says to leave: the line behind it is not run. -/
theorem start_run_calculation :
    ∃ effects c, start ⟨Session.emptyHost, "", none, 0⟩ .empty = (effects, .ok c) ∧
      outputs effects = [greeting Session.builtins] ∧
      outputs (run ⟨Session.emptyHost, "", none, 0⟩ c
          [.line "calc 1 + 1", .line " EXIT ", .line "calc 2 + 2"]).1 =
        ["fakeshell> ", "1 + 1 = 2\n", "fakeshell> "] := by
  let w : Surroundings := ⟨Session.emptyHost, "", none, 0⟩
  let s : Session := Session.fresh Session.builtins .default .empty
  have hsession : (Session.start 0 .empty (some Settings.defaultPath)).result = .ok s := rfl
  obtain ⟨hstarts, hruns⟩ := start_run_eq_session w .empty
  obtain ⟨effects, c, hstart⟩ := hstarts.mpr ⟨s, hsession, by decide +kernel⟩
  obtain ⟨hs, hgreeting, hrun, -, hturns⟩ := hruns effects c hstart
  have hcs : c.session = s := Except.ok.inj (hs.symm.trans hsession)
  rw [hcs] at hgreeting hturns
  let t : Turn := ⟨w, "calc 1 + 1", s.store⟩
  let arrivals : List Arrival :=
    [(w, .line "calc 1 + 1"), (w, .line " EXIT "), (w, .line "calc 2 + 2")]
  have hvalue : (t.outcome s).result = .ok true := by decide +kernel
  have hts : AreTurns s arrivals [t] .exitWord :=
    areTurns_cons_iff.mpr ⟨_, rfl, by decide +kernel, rfl,
      .inl ⟨⟨true, hvalue⟩, areTurns_nil_iff.mpr (by decide +kernel)⟩⟩
  have hfaults : ∀ u ∈ [t], ∀ e, (u.outcome s).result = .error e → e.isInterrupt = true := by
    intro u hu e he
    obtain rfl := List.mem_singleton.mp hu
    rw [hvalue] at he
    cases he
  obtain ⟨-, houtputs, -⟩ :=
    (hturns "fakeshell> " rfl arrivals (by decide +kernel)).2 [t] .exitWord hts hfaults
  refine ⟨effects, c, hstart, hgreeting, ?_⟩
  rw [hrun]
  refine houtputs.trans ?_
  simp only [outputsOfTurn, List.flatMap_cons, List.flatMap_nil, hcs]
  decide +kernel

/-- **A level that is no level** keeps the console from starting, before the greeting is written, and one
with a surrogate for its prompt ends before it waits for a line. -/
theorem start_of_layout_for_level :
    (start ⟨Session.emptyHost, "", none, 1⟩
        (Settings.diskWith "\x7b\"log_level\": \"BASIC_FORMAT\"\x7d")).1 = [] ∧
      (start ⟨Session.emptyHost, "", none, 1⟩
          (Settings.diskWith "\x7b\"log_level\": \"BASIC_FORMAT\"\x7d")).2.map (fun _ => ()) =
        .error (.level .layout) ∧
      (start ⟨Session.emptyHost, "", none, 1⟩
          (Settings.diskWith "\x7b\"prompt\": \"\\ud800\"\x7d")).2.map
          (run ⟨Session.emptyHost, "", none, 1⟩ · [.line "exit"]) =
        .ok ([], .unwritable ⟨[.surrogate 0]⟩) ∧
      (Ending.unwritable ⟨[.surrogate 0]⟩).exitCode = 1 := by
  decide +kernel

end Console

end LineShell
