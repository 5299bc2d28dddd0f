import LineShell.Json.Reader

/-!
# How deep a text nests

The reader keeps the containers that are open, and at each place in a text their number is that of the
brackets opened before it less that of the brackets closed (`openLength_of_foldlM`). So whether a text
nests too deeply can be said by counting brackets. It is said of the first place where a container
would be one too many, and what follows that place does not matter, even if it makes no sense.

**Main statement** (`read_eq_tooDeep_iff`): a text is given up for its nesting exactly when it makes
sense up to a bracket that opens a value, with `nesting` containers open there.
-/

namespace LineShell

namespace Json

/-! ### Brackets -/

/-- The bracket that opens a container. -/
def Container.opening : Container → Token
  | list => .openList
  | object => .openObject

/-- Whether a token opens a container. -/
def Token.opens : Token → Bool
  | openList | openObject => true
  | _ => false

/-- Whether a token closes a container. -/
def Token.closes : Token → Bool
  | closeList | closeObject => true
  | _ => false

/-- How many containers are opened in a token list. -/
def opened (ts : List Token) : Nat := ts.countP Token.opens

/-- How many containers are closed in a token list. -/
def closed (ts : List Token) : Nat := ts.countP Token.closes

/-! ### One token -/

variable {nesting : Nat}

/-- The states in which a value may begin. -/
def State.AwaitsValue : State → Prop
  | value _ | firstItem _ => True
  | _ => False

/-- Opening a container fails exactly when it would be one too many. -/
theorem openContainer_eq_tooDeep_iff {k c : Container} {outer : Frames} :
    openContainer nesting k outer = .error (.tooDeep c) ↔ k = c ∧ nesting ≤ outer.length := by
  unfold openContainer
  split
  · next h => simp [h]
  · next h => cases k <;> simp [h]

/-- The first token of a value is one container too many exactly when it opens one where `nesting` are
open. -/
theorem beginValue_eq_tooDeep_iff {outer : Frames} {t : Token} {c : Container} :
    beginValue nesting outer t = .error (.tooDeep c) ↔ t = c.opening ∧ nesting ≤ outer.length := by
  cases t with
  | openList =>
      rw [beginValue, openContainer_eq_tooDeep_iff]
      cases c <;> simp [Container.opening]
  | openObject =>
      rw [beginValue, openContainer_eq_tooDeep_iff]
      cases c <;> simp [Container.opening]
  | closeList | closeObject | comma | colon | text s | scalar v | bad =>
      cases c <;> simp [beginValue, Container.opening]

/-- **A token is one container too many** exactly when it opens a value where `nesting` containers are
open. -/
theorem step_eq_tooDeep_iff {s : State} {t : Token} {c : Container} :
    step nesting s t = .error (.tooDeep c) ↔ t = c.opening ∧ s.AwaitsValue ∧ nesting ≤ s.openLength := by
  cases s with
  | value outer => simp [step, beginValue_eq_tooDeep_iff, State.AwaitsValue, State.openLength]
  | firstItem outer =>
      by_cases ht : t = .closeList
      · subst ht
        cases c <;> simp [step, Container.opening]
      · rw [step, beginValue_eq_tooDeep_iff]
        · simp [State.AwaitsValue, State.openLength]
        · exact ht
  | firstName outer => cases t <;> simp [step, State.AwaitsValue]
  | name members outer => cases t <;> simp [step, State.AwaitsValue]
  | colon members name outer => cases t <;> simp [step, State.AwaitsValue]
  | nextItem items outer => cases t <;> simp [step, State.AwaitsValue]
  | nextMember members outer => cases t <;> simp [step, State.AwaitsValue]
  | done v => cases t <;> simp [step, State.AwaitsValue]

/-- A token that begins a value opens a container, or leaves open what is open. -/
theorem openLength_beginValue {outer : Frames} {t : Token} {u : State}
    (h : beginValue nesting outer t = .ok u) :
    u.openLength + closed [t] = outer.length + opened [t] := by
  cases t with
  | openList | openObject =>
      simp only [beginValue, openContainer] at h
      split at h
      · cases h
      · cases h
        rfl
  | text s | scalar v =>
      rw [beginValue] at h
      cases h
      exact openLength_place _ outer
  | closeList | closeObject | comma | colon | bad => cases h

/-- **The containers that are open** are one more behind a bracket that opens one, and one less behind
a bracket that closes one. -/
theorem openLength_step {s u : State} {t : Token} (h : step nesting s t = .ok u) :
    u.openLength + closed [t] = s.openLength + opened [t] := by
  fun_cases step nesting s t with
  | case1 outer t => exact openLength_beginValue h
  | case3 outer t hne =>
      rw [step] at h
      · exact openLength_beginValue h
      · exact hne
  | case2 | case4 | case9 | case11 =>
      -- a bracket closes the innermost container
      rw [step] at h
      cases h
      rw [openLength_place]
      rfl
  | case5 | case6 | case7 | case8 | case10 =>
      cases h
      rfl
  | case12 => simp [step] at h

/-! ### Texts -/

/-- **The containers that are open at a place** are those opened before it less those closed. -/
theorem openLength_of_foldlM {ts : List Token} {s u : State} (h : ts.foldlM (step nesting) s = .ok u) :
    u.openLength + closed ts = s.openLength + opened ts := by
  induction ts generalizing s with
  | nil =>
      cases h
      rfl
  | cons t ts ih =>
      rw [List.foldlM_cons] at h
      cases ht : step nesting s t with
      | error e => rw [ht] at h; cases h
      | ok s' =>
          rw [ht] at h
          have hstep := openLength_step ht
          have hrest := ih h
          have hclosed : closed ([t] ++ ts) = closed [t] + closed ts := List.countP_append
          have hopened : opened ([t] ++ ts) = opened [t] + opened ts := List.countP_append
          rw [List.singleton_append] at hclosed hopened
          omega

/-- A fold ends with an error exactly when it comes to an element where it does. -/
theorem foldlM_eq_error_iff {ε σ τ : Type} {f : σ → τ → Except ε σ} {ts : List τ} {s : σ} {e : ε} :
    ts.foldlM f s = .error e ↔
      ∃ before t after u, ts = before ++ t :: after ∧ before.foldlM f s = .ok u ∧
        f u t = .error e := by
  constructor
  · intro h
    induction ts generalizing s with
    | nil => cases h
    | cons t ts ih =>
        rw [List.foldlM_cons] at h
        cases ht : f s t with
        | error e' =>
            rw [ht] at h
            cases h
            exact ⟨[], t, ts, s, rfl, rfl, ht⟩
        | ok s' =>
            rw [ht] at h
            obtain ⟨before, t', after, u, rfl, hbefore, hu⟩ := ih h
            refine ⟨t :: before, t', after, u, rfl, ?_, hu⟩
            rw [List.foldlM_cons, ht]
            exact hbefore
  · rintro ⟨before, t, after, u, rfl, hbefore, hu⟩
    rw [List.foldlM_append, hbefore]
    show (t :: after).foldlM f u = .error e
    rw [List.foldlM_cons, hu]
    rfl

/-- Whether a text makes sense up to a bracket that opens a value with `nesting` containers open: as
many have been opened before it, and not closed. -/
def NestsTooDeeply (nesting : Nat) (cs : List Char) (c : Container) : Prop :=
  ∃ before after s, tokens cs = before ++ c.opening :: after ∧
    before.foldlM (step nesting) (.value []) = .ok s ∧ s.AwaitsValue ∧ closed before + nesting ≤ opened before

/-- What is read as a whole is an error only if one of its tokens is, or if it ends too early. -/
theorem read_eq_tooDeep_iff_foldlM {cs : List Char} {c : Container} :
    read nesting cs = .error (.tooDeep c) ↔ (tokens cs).foldlM (step nesting) (.value []) = .error (.tooDeep c) := by
  rw [read]
  cases h : (tokens cs).foldlM (step nesting) (.value []) with
  | error e => simp [bind, Except.bind]
  | ok s => cases s <;> simp [bind, Except.bind, pure, Except.pure, throw, throwThe, MonadExceptOf.throw]

/-- **A text is given up for its nesting** exactly when it nests too deeply. -/
theorem read_eq_tooDeep_iff {cs : List Char} {c : Container} :
    read nesting cs = .error (.tooDeep c) ↔ NestsTooDeeply nesting cs c := by
  rw [read_eq_tooDeep_iff_foldlM, foldlM_eq_error_iff]
  constructor
  · rintro ⟨before, t, after, u, htokens, hbefore, hu⟩
    obtain ⟨rfl, hawaits, hopen⟩ := step_eq_tooDeep_iff.mp hu
    have hcount : u.openLength + closed before = 0 + opened before := openLength_of_foldlM hbefore
    exact ⟨before, after, u, htokens, hbefore, hawaits, by omega⟩
  · rintro ⟨before, after, u, htokens, hbefore, hawaits, hnesting⟩
    have hcount : u.openLength + closed before = 0 + opened before := openLength_of_foldlM hbefore
    exact ⟨before, c.opening, after, u, htokens, hbefore,
      step_eq_tooDeep_iff.mpr ⟨rfl, hawaits, by omega⟩⟩

end Json

end LineShell
