import LineShell.Proofs.Session.Keeping
import Mathlib.Control.Monad.Basic

/-!
# What is recorded

A line that is not blank is expanded, echoed if that changed it, and recorded, all before its first
segment is executed (`Session.run_of_expand`). The commands of the shell keep the log
(`Session.keeps_of_mem_builtins`), so it is the log with one entry more that is left, however the
segments end (`Session.history_run`).

Over many lines the log grows by one entry for each line that is not blank, and the entry is what that
line meant when the log ended before it (`Session.Returns.records`). Entries that are brought back
were recorded once, so no entry is ever blank (`Session.IsReachable.not_isBlankText_of_mem`).

**Main statement** (`Session.run_records_expansion`): all this for every session that the shell can be
in.
-/

namespace LineShell

/-! ### Expansion -/

namespace History

/-- What a reference finds is an entry. -/
theorem mem_of_resolve {h : History} {r : Reference} {e : String}
    (hr : h.resolve r = .ok (some e)) : e ∈ h.entries := by
  cases r with
  | last =>
      rw [resolve, Except.ok.injEq] at hr
      exact List.mem_of_getLast? hr
  | position ds =>
      rw [resolve] at hr
      cases hread : Numeral.read ds with
      | error f => rw [hread] at hr; cases hr
      | ok n =>
          rw [hread, Except.map, Except.ok.injEq] at hr
          cases n with
          | zero => cases hr
          | succ n => exact List.mem_of_getElem? hr
  | start cs =>
      rw [resolve, Except.ok.injEq] at hr
      exact List.mem_reverse.mp (List.mem_of_find?_eq_some hr)

/-- What a line is expanded to is the line itself or an entry. -/
theorem eq_or_mem_of_expand {h : History} {raw line : String}
    (hline : h.expand raw = .ok line) : line = raw ∨ line ∈ h.entries := by
  unfold expand at hline
  split at hline
  · next cs _ =>
    cases hresolve : h.resolve (.ofChars cs) with
    | error e => rw [hresolve] at hline; cases hline
    | ok found =>
        rw [hresolve] at hline
        cases hline
        cases found with
        | none => exact .inl rfl
        | some e => exact .inr (mem_of_resolve hresolve)
  · cases hline
    exact .inl rfl

end History

namespace Outcome

/-- An outcome with events before its own. -/
def behind {α : Type} (o : Outcome α) (es : List Event) : Outcome α :=
  { o with events := es ++ o.events }

@[simp] theorem store_behind {α : Type} (o : Outcome α) (es : List Event) :
    (o.behind es).store = o.store := rfl

@[simp] theorem events_behind {α : Type} (o : Outcome α) (es : List Event) :
    (o.behind es).events = es ++ o.events := rfl

end Outcome

namespace Session

/-! ### One line -/

/-- What is written before the segments of a line: the line, if it is not the one that was typed. -/
def echo (raw line : String) : List Event := if line = raw then [] else [.out line]

/-- A line is echoed and recorded, unless its reference cannot be read. -/
theorem run_recordLine (raw : String) (c : Context) (s : Store) :
    (recordLine raw).run c s =
      match s.history.expand raw with
      | .error e => ⟨.error (.numeral e), s, []⟩
      | .ok line => ⟨.ok line, { s with history := s.history.add line }, echo raw line⟩ := by
  cases h : s.history.expand raw with
  | error e => simp [recordLine, Act.ofExcept, h]
  | ok line =>
      by_cases hraw : line = raw
      · simp [recordLine, Act.ofExcept, Except.map, h, echo, hraw]
      · simp [recordLine, Act.ofExcept, Except.map, h, echo, hraw]

/-- A blank line does nothing. -/
theorem run_of_isBlankText (s : Session) (host : Host) {raw : String}
    (h : Text.isBlankText raw = true) : s.run host raw = ⟨.ok true, s.store, []⟩ := by
  rw [run, perform, runLine, if_pos h, Act.run_pure]

/-- A line whose reference cannot be read does nothing. -/
theorem run_of_expand_error {s : Session} (host : Host) {raw : String}
    (h : Text.isBlankText raw = false) {e : Numeral.LimitError}
    (he : s.store.history.expand raw = .error e) :
    s.run host raw = ⟨.error (.numeral e), s.store, []⟩ := by
  rw [run, perform, runLine, if_neg (by simp [h]), Act.run_bind, run_recordLine, he,
    Act.andThen_error]

/-- What the segments of a line come to, once the line was recorded. -/
def segmentsOf (s : Session) (host : Host) (line : String) : Outcome Bool :=
  (executeAll s.commands true (Segment.ofLine line)).run (s.context host)
    { s.store with history := s.store.history.add line }

/-- Any other line is echoed and recorded, and its segments are executed from there on. -/
theorem run_of_expand {s : Session} (host : Host) {raw line : String}
    (h : Text.isBlankText raw = false) (hline : s.store.history.expand raw = .ok line) :
    s.run host raw = (s.segmentsOf host line).behind (echo raw line) := by
  rw [run, perform, runLine, if_neg (by simp [h]), Act.run_bind, run_recordLine, hline,
    Act.andThen_ok, segmentsOf, Outcome.behind]

/-- A line that comes to a value, and is not blank, was expanded. -/
theorem exists_expand_of_run {s : Session} {host : Host} {raw : String}
    (hblank : Text.isBlankText raw = false) {b : Bool} (h : (s.run host raw).result = .ok b) :
    ∃ line, s.store.history.expand raw = .ok line := by
  cases hline : s.store.history.expand raw with
  | error e => rw [run_of_expand_error host hblank hline] at h; cases h
  | ok line => exact ⟨line, rfl⟩

/-- The segments leave the log as it was recorded. -/
theorem history_segmentsOf {s : Session} (hs : ∀ p ∈ s.commands, p.2.Keeps Store.history)
    (host : Host) (line : String) :
    (s.segmentsOf host line).store.history = s.store.history.add line := by
  have hkept := keeps_executeAll Store.isAside_history hs true (Segment.ofLine line)
    (s.context host) { s.store with history := s.store.history.add line }
  rw [segmentsOf, hkept]

/-- **The log behind a line** is the log before it with what the line is expanded to, or the log before
it if the line is blank or its reference cannot be read. The segments do not matter. -/
theorem history_run {s : Session} (hs : ∀ p ∈ s.commands, p.2.Keeps Store.history) (host : Host)
    (raw : String) :
    (s.run host raw).store.history = s.store.history ∨
      Text.isBlankText raw = false ∧ ∃ line, s.store.history.expand raw = .ok line ∧
        (s.run host raw).store.history = s.store.history.add line := by
  cases hblank : Text.isBlankText raw with
  | true => exact .inl (by rw [run_of_isBlankText s host hblank])
  | false =>
      cases hline : s.store.history.expand raw with
      | error e => exact .inl (by rw [run_of_expand_error host hblank hline])
      | ok line =>
          refine .inr ⟨rfl, line, rfl, ?_⟩
          rw [run_of_expand host hblank hline, Outcome.store_behind, history_segmentsOf hs]

/-! ### The sessions of the shell -/

/-- The session after the files have changed without it. -/
def withDisk (s : Session) (disk : Disk) : Session := s.withStore { s.store with disk := disk }

/-- The session after a line was entered, whatever that came to. -/
def after (s : Session) (host : Host) (raw : String) : Session :=
  s.withStore (s.run host raw).store

@[simp] theorem store_withDisk (s : Session) (disk : Disk) :
    (s.withDisk disk).store = { s.store with disk := disk } := rfl

@[simp] theorem store_after (s : Session) (host : Host) (raw : String) :
    (s.after host raw).store = (s.run host raw).store := rfl

/-- The sessions that the shell can be in. Lines are entered, whatever they come to; single segments
may be executed as well; and files may change without the shell. -/
inductive IsReachable : Session → Prop where
  /-- The shell has started. -/
  | start {nesting : Nat} {disk : Disk} {path : Option String} {s : Session}
      (started : (Session.start nesting disk path).result = .ok s) : IsReachable s
  /-- A line was entered. -/
  | line {s : Session} (before : IsReachable s) (host : Host) (raw : String) :
      IsReachable (s.after host raw)
  /-- A segment was executed by itself. -/
  | segment {s : Session} (before : IsReachable s) (host : Host) (text : String) :
      IsReachable (s.withStore (s.perform host (execute s.commands text)).store)
  /-- The files have changed. -/
  | files {s : Session} (before : IsReachable s) (disk : Disk) : IsReachable (s.withDisk disk)

/-- The commands are those of the shell at all times. -/
theorem IsReachable.commands_eq {s : Session} (h : s.IsReachable) : s.commands = builtins := by
  induction h with
  | start started =>
      obtain ⟨settings, -, rfl⟩ := exists_eq_fresh_of_start started
      rfl
  | line _ _ _ ih => exact ih
  | segment _ _ _ ih => exact ih
  | files _ _ ih => exact ih

/-- The commands of the shell keep the log. -/
theorem IsReachable.keeps_history {s : Session} (h : s.IsReachable) :
    ∀ p ∈ s.commands, p.2.Keeps Store.history := by
  rw [h.commands_eq]
  exact keeps_of_mem_builtins Store.isAside_history

/-- **No entry is blank.** -/
theorem IsReachable.not_isBlankText_of_mem {s : Session} (h : s.IsReachable) :
    ∀ e ∈ s.store.history.entries, Text.isBlankText e = false := by
  induction h with
  | start started =>
      obtain ⟨settings, -, rfl⟩ := exists_eq_fresh_of_start started
      intro e he
      cases he
  | @line s before host raw ih =>
      intro e he
      rcases history_run before.keeps_history host raw with
        hkept | ⟨hblank, line, hline, hadded⟩
      · exact ih e (hkept ▸ he)
      · have he : e ∈ (s.store.history.add line).entries := hadded ▸ he
        rw [History.entries_add] at he
        rcases List.mem_append.mp he with he | he
        · exact ih e he
        · rw [List.mem_singleton] at he
          subst he
          rcases History.eq_or_mem_of_expand hline with rfl | hmem
          · exact hblank
          · exact ih e hmem
  | @segment s before host text ih =>
      have hkept := keeps_execute Store.isAside_history before.keeps_history text (s.context host)
        s.store
      intro e he
      exact ih e (hkept ▸ he)
  | files _ _ ih => exact ih

/-! ### Many lines -/

/-- Lines are entered in a session one after another, each of them comes to a value, and this is the
session that is left. Files may change in between. -/
inductive Returns : Session → List String → Session → Prop where
  /-- No line was entered. -/
  | nil (s : Session) : Returns s [] s
  /-- A line came to a value, and then others did. -/
  | cons {s u : Session} {raw : String} {raws : List String} (disk : Disk) (host : Host) (b : Bool)
      (value : ((s.withDisk disk).run host raw).result = .ok b)
      (rest : Returns ((s.withDisk disk).after host raw) raws u) : Returns s (raw :: raws) u

/-- One line that comes to a value leaves the log as it is if it is blank, and otherwise adds to it
what the line is expanded to. -/
theorem IsReachable.history_after {s : Session} (h : s.IsReachable) {host : Host} {raw : String}
    {b : Bool} (hvalue : (s.run host raw).result = .ok b) :
    Text.isBlankText raw = true ∧ (s.after host raw).store.history = s.store.history ∨
      Text.isBlankText raw = false ∧ ∃ line, s.store.history.expand raw = .ok line ∧
        (s.after host raw).store.history = s.store.history.add line := by
  cases hblank : Text.isBlankText raw with
  | true => exact .inl ⟨rfl, by rw [store_after, run_of_isBlankText s host hblank]⟩
  | false =>
      obtain ⟨line, hline⟩ := exists_expand_of_run hblank hvalue
      refine .inr ⟨rfl, line, hline, ?_⟩
      rw [store_after, run_of_expand host hblank hline, Outcome.store_behind,
        history_segmentsOf h.keeps_history]

end Session

/-- Whether a log has grown by these lines: it goes on with one entry for each of them, and this is
what the line is expanded to against the entries before. -/
def History.Records (typed : List String) (before after : History) : Prop :=
  ∃ lines, after.entries = before.entries ++ lines ∧ lines.length = typed.length ∧
    ∀ (i : Nat) (raw : String), typed[i]? = some raw →
      ∃ line, lines[i]? = some line ∧
        History.expand ⟨after.entries.take (before.length + i)⟩ raw = .ok line

namespace History

/-- A log that has not changed has grown by no line. -/
theorem records_nil (h : History) : Records [] h h := by
  refine ⟨[], (List.append_nil _).symm, rfl, ?_⟩
  intro i raw hraw
  cases hraw

/-- A log that has grown by one line and then by others has grown by all of them. -/
theorem records_cons {before after : History} {raw line : String} {typed : List String}
    (hline : before.expand raw = .ok line) (h : Records typed (before.add line) after) :
    Records (raw :: typed) before after := by
  obtain ⟨lines, hentries, hlength, hexpand⟩ := h
  rw [entries_add, List.append_assoc] at hentries
  refine ⟨line :: lines, hentries, by simp [hlength], ?_⟩
  intro i other hother
  cases i with
  | zero =>
      cases hother
      refine ⟨line, rfl, ?_⟩
      rw [hentries, Nat.add_zero, length, List.take_left]
      exact hline
  | succ i =>
      obtain ⟨expanded, hat, hexpanded⟩ := hexpand i other hother
      refine ⟨expanded, hat, ?_⟩
      rw [length_add] at hexpanded
      rwa [Nat.add_comm i 1, ← Nat.add_assoc]

end History

namespace Session

/-- **The log over many lines** grows by those that are not blank. -/
theorem Returns.records {s u : Session} {raws : List String} (h : Returns s raws u)
    (hs : s.IsReachable) :
    History.Records (raws.filter fun raw => !Text.isBlankText raw) s.store.history
      u.store.history := by
  induction h with
  | nil s => exact History.records_nil _
  | @cons s u raw raws disk host b value rest ih =>
      have hrest := ih ((hs.files disk).line host raw)
      rcases (hs.files disk).history_after value with ⟨hblank, hkept⟩ | ⟨hblank, line, hline, hadded⟩
      · rw [hkept, store_withDisk] at hrest
        rwa [List.filter_cons_of_neg (by simp [hblank])]
      · rw [hadded, store_withDisk] at hrest
        rw [List.filter_cons_of_pos (by simp [hblank])]
        exact History.records_cons hline hrest

/-- **What a line leaves behind.** In every session that the shell can be in a blank line does nothing
at all. Any other line that comes to a value leaves the log with one entry more, which is what the
line is expanded to, whatever its segments come to; this is echoed first if it is not the line itself.
So over lines that come to values the log grows by those that are not blank, each expanded against the
entries before; and no entry is blank. -/
theorem run_records_expansion {s : Session} (hs : s.IsReachable) :
    (∀ host raw, Text.isBlankText raw = true → s.run host raw = ⟨.ok true, s.store, []⟩) ∧
      (∀ host raw b, Text.isBlankText raw = false → (s.run host raw).result = .ok b →
        ∃ line, s.store.history.expand raw = .ok line ∧
          (s.run host raw).store.history.entries = s.store.history.entries ++ [line] ∧
          (s.run host raw).events =
            (if line = raw then [] else [.out line]) ++ (s.segmentsOf host line).events) ∧
      (∀ raws u, Returns s raws u →
        History.Records (raws.filter fun raw => !Text.isBlankText raw) s.store.history
          u.store.history) ∧
      ∀ e ∈ s.store.history.entries, Text.isBlankText e = false := by
  refine ⟨?_, ?_, fun raws u h => h.records hs, hs.not_isBlankText_of_mem⟩
  · exact fun host raw hblank => run_of_isBlankText s host hblank
  · intro host raw b hblank hvalue
    obtain ⟨line, hline⟩ := exists_expand_of_run hblank hvalue
    refine ⟨line, hline, ?_, ?_⟩
    · rw [run_of_expand host hblank hline, Outcome.store_behind,
        history_segmentsOf hs.keeps_history, History.entries_add]
    · rw [run_of_expand host hblank hline, Outcome.events_behind, echo]

/-- A world in which no command is known. -/
def emptyHost : Host := .always (.finished 127 "" "")

/-- Four lines in a new session: the second is blank, no child can run the third, and the last stands
for the third. -/
theorem run_records_four_lines :
    ∃ u, Returns (fresh builtins .default .empty) ["alias", "  ", "nothing here", "!!"] u ∧
      History.Records ["alias", "nothing here", "!!"] .empty u.store.history ∧
      u.store.history.entries = ["alias", "nothing here", "nothing here"] := by
  have hs : IsReachable (fresh builtins .default .empty) := @IsReachable.start 0 .empty none _ rfl
  have hreturns : Returns (fresh builtins .default .empty) ["alias", "  ", "nothing here", "!!"] _ :=
    .cons .empty emptyHost true (by decide +kernel) <|
    .cons .empty emptyHost true (by decide +kernel) <|
    .cons .empty emptyHost false (by decide +kernel) <|
    .cons .empty emptyHost false (by decide +kernel) <|
    .nil _
  refine ⟨_, hreturns, ?_, by decide +kernel⟩
  exact (run_records_expansion hs).2.2.1 _ _ hreturns

end Session

end LineShell
