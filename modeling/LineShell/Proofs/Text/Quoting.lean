import LineShell.Text.ShellWord

/-!
# Quoting words for a shell

A text that is quoted as a word is read as this word in front of any rest of a line
(`readShellWordsFrom_shellQuote`), whichever characters it has: characters without another meaning are read
where they stand, and between single quotes each character is read as itself, but for the single quote, for
which the quotation is left and entered again.

The reader keeps to what it is sure of. In a line that it reads as words, no character stands outside quotes,
or between double quotes, that would mean something else to a shell there (`not_isActive_of_mem_marked`).

**Main statement** (`readShellWords?_intercalate_map_shellQuote`): a list of texts, each quoted and all joined
with blanks, is read as the list.
-/

namespace LineShell

namespace Chars

/-! ### One character of the line -/

section Steps

variable {c : Char} {w cs : List Char}

theorem readShellWordsFrom_between_cons (c : Char) (cs : List Char) :
    readShellWordsFrom .between (c :: cs) =
      if c = ' ' ∨ c = '\t' then readShellWordsFrom .between cs
      else if c = '\'' then readShellWordsFrom (.single []) cs
      else if c = '"' then readShellWordsFrom (.double []) cs
      else if isShellSafe c then readShellWordsFrom (.plain [c]) cs
      else none := rfl

theorem readShellWordsFrom_plain_cons (w : List Char) (c : Char) (cs : List Char) :
    readShellWordsFrom (.plain w) (c :: cs) =
      if c = ' ' ∨ c = '\t' then (readShellWordsFrom .between cs).map (w :: ·)
      else if c = '\'' then readShellWordsFrom (.single w) cs
      else if c = '"' then readShellWordsFrom (.double w) cs
      else if isShellSafe c then readShellWordsFrom (.plain (w ++ [c])) cs
      else none := rfl

theorem readShellWordsFrom_single_cons (w : List Char) (c : Char) (cs : List Char) :
    readShellWordsFrom (.single w) (c :: cs) =
      if c = '\'' then readShellWordsFrom (.plain w) cs
      else readShellWordsFrom (.single (w ++ [c])) cs := rfl

theorem readShellWordsFrom_double_cons (w : List Char) (c : Char) (cs : List Char) :
    readShellWordsFrom (.double w) (c :: cs) =
      if c = '"' then readShellWordsFrom (.plain w) cs
      else if c = '$' ∨ c = '`' ∨ c = '\\' then none
      else readShellWordsFrom (.double (w ++ [c])) cs := rfl

/-- A safe character is neither a blank nor a quote. -/
theorem ne_of_isShellSafe (h : isShellSafe c = true) :
    ¬ (c = ' ' ∨ c = '\t') ∧ c ≠ '\'' ∧ c ≠ '"' := by
  refine ⟨?_, ?_, ?_⟩
  · rintro (rfl | rfl)
    · exact absurd h (by decide)
    · exact absurd h (by decide)
  · rintro rfl
    exact absurd h (by decide)
  · rintro rfl
    exact absurd h (by decide)

theorem readShellWordsFrom_between_safe (h : isShellSafe c = true) :
    readShellWordsFrom .between (c :: cs) = readShellWordsFrom (.plain [c]) cs := by
  obtain ⟨hblank, hsingle, hdouble⟩ := ne_of_isShellSafe h
  rw [readShellWordsFrom_between_cons, if_neg hblank, if_neg hsingle, if_neg hdouble, if_pos h]

theorem readShellWordsFrom_plain_safe (h : isShellSafe c = true) :
    readShellWordsFrom (.plain w) (c :: cs) = readShellWordsFrom (.plain (w ++ [c])) cs := by
  obtain ⟨hblank, hsingle, hdouble⟩ := ne_of_isShellSafe h
  rw [readShellWordsFrom_plain_cons, if_neg hblank, if_neg hsingle, if_neg hdouble, if_pos h]

theorem readShellWordsFrom_between_quote :
    readShellWordsFrom .between ('\'' :: cs) = readShellWordsFrom (.single []) cs := rfl

theorem readShellWordsFrom_single_quote :
    readShellWordsFrom (.single w) ('\'' :: cs) = readShellWordsFrom (.plain w) cs := rfl

theorem readShellWordsFrom_single_of_ne (h : c ≠ '\'') :
    readShellWordsFrom (.single w) (c :: cs) = readShellWordsFrom (.single (w ++ [c])) cs := by
  rw [readShellWordsFrom_single_cons, if_neg h]

/-- Between single quotes, a single quote between double quotes is read as itself: the quotation is left,
and it is entered again. -/
theorem readShellWordsFrom_single_splice :
    readShellWordsFrom (.single w) ("'\"'\"'".toList ++ cs) =
      readShellWordsFrom (.single (w ++ ['\''])) cs := rfl

/-- A blank ends a word. -/
theorem readShellWordsFrom_plain_blank :
    readShellWordsFrom (.plain w) (' ' :: cs) = (readShellWordsFrom .between cs).map (w :: ·) := rfl

end Steps

/-! ### Words -/

/-- Safe characters go on a word that is being read. -/
theorem readShellWordsFrom_plain_append {cs : List Char} (h : cs.all isShellSafe = true)
    (w rest : List Char) :
    readShellWordsFrom (.plain w) (cs ++ rest) = readShellWordsFrom (.plain (w ++ cs)) rest := by
  induction cs generalizing w with
  | nil => rw [List.nil_append, List.append_nil]
  | cons c cs ih =>
      obtain ⟨hc, hcs⟩ := Bool.and_eq_true_iff.mp h
      rw [List.cons_append, readShellWordsFrom_plain_safe hc, ih hcs, List.append_assoc,
        List.singleton_append]

/-- Between single quotes a text is read up to the quote that ends it, and each single quote in it where it
is spliced in. -/
theorem readShellWordsFrom_single_append (cs w rest : List Char) :
    readShellWordsFrom (.single w)
        (cs.flatMap (fun c => if c = '\'' then "'\"'\"'".toList else [c]) ++ '\'' :: rest) =
      readShellWordsFrom (.plain (w ++ cs)) rest := by
  induction cs generalizing w with
  | nil => rw [List.flatMap_nil, List.nil_append, List.append_nil, readShellWordsFrom_single_quote]
  | cons c cs ih =>
      rw [List.flatMap_cons, List.append_assoc]
      by_cases hc : c = '\''
      · subst hc
        rw [if_pos rfl, readShellWordsFrom_single_splice, ih, List.append_assoc,
          List.singleton_append]
      · rw [if_neg hc, List.singleton_append, readShellWordsFrom_single_of_ne hc, ih,
          List.append_assoc, List.singleton_append]

/-- **A quoted text is read as itself**, in front of any rest of the line. -/
theorem readShellWordsFrom_shellQuote (cs rest : List Char) :
    readShellWordsFrom .between (shellQuote cs ++ rest) = readShellWordsFrom (.plain cs) rest := by
  cases cs with
  | nil =>
      show readShellWordsFrom .between ('\'' :: '\'' :: rest) = _
      rw [readShellWordsFrom_between_quote, readShellWordsFrom_single_quote]
  | cons c cs =>
      rw [shellQuote, if_neg (by simp)]
      by_cases hsafe : (c :: cs).all isShellSafe = true
      · obtain ⟨hc, hcs⟩ := Bool.and_eq_true_iff.mp hsafe
        rw [if_pos hsafe, List.cons_append, readShellWordsFrom_between_safe hc,
          readShellWordsFrom_plain_append hcs, List.singleton_append]
      · rw [if_neg hsafe, singleQuoted, List.append_assoc, List.cons_append,
          readShellWordsFrom_between_quote, List.singleton_append,
          readShellWordsFrom_single_append, List.nil_append]

/-- **Quoted texts with blanks between them are read as the texts.** -/
theorem readShellWords?_intercalate_map_shellQuote (ws : List (List Char)) :
    readShellWords? ([' '].intercalate (ws.map shellQuote)) = some ws := by
  rw [readShellWords?]
  induction ws with
  | nil => rfl
  | cons w ws ih =>
      cases ws with
      | nil =>
          rw [List.map_singleton, List.intercalate_singleton]
          have hword := readShellWordsFrom_shellQuote w []
          rw [List.append_nil] at hword
          exact hword
      | cons v vs =>
          rw [List.map_cons, List.map_cons, List.intercalate_cons_cons, ← List.map_cons,
            List.append_assoc, List.singleton_append, readShellWordsFrom_shellQuote,
            readShellWordsFrom_plain_blank, ih]
          rfl

/-! ### What stands outside quotes -/

/-- The quotes that a character of a line stands between. -/
inductive Quotes where
  /-- None. -/
  | none
  /-- Single quotes. -/
  | single
  /-- Double quotes. -/
  | double
deriving DecidableEq, Repr

namespace Quotes

/-- The quotes behind a character: a quote opens a quotation outside of any, and ends one of its own
kind. -/
def after : Quotes → Char → Quotes
  | none, c => if c = '\'' then single else if c = '"' then double else none
  | single, c => if c = '\'' then none else single
  | double, c => if c = '"' then none else double

/-- The characters that mean something else than themselves to a shell, outside quotes: they may be part of an
operator, an expansion, a pattern, a comment, or the end of a line. -/
def activeOutside : List Char :=
  ['|', '&', ';', '<', '>', '(', ')', '$', '`', '\\', '*', '?', '[', ']', '#', '~', '!', '{', '}', '\n', '\r']

/-- Those between double quotes: they begin an expansion or take a meaning away. -/
def activeBetweenDouble : List Char := ['$', '`', '\\']

/-- Whether a character means something else than itself to a shell. Between single quotes none does. -/
def isActive : Quotes → Char → Bool
  | none, c => activeOutside.contains c
  | single, _ => false
  | double, c => activeBetweenDouble.contains c

end Quotes

/-- The characters of a line, each with the quotes that it stands between. -/
def marked : Quotes → List Char → List (Quotes × Char)
  | _, [] => []
  | q, c :: cs => (q, c) :: marked (q.after c) cs

/-- The quotes that a reader of words is between. -/
def WordState.quotes : WordState → Quotes
  | between | plain _ => .none
  | single _ => .single
  | double _ => .double

/-- A character that is safe is not active outside quotes. -/
theorem not_isActive_of_isShellSafe {c : Char} (h : isShellSafe c = true) :
    Quotes.none.isActive c = false := by
  have hactive : (Quotes.activeOutside.all fun d => !isShellSafe d) = true := by decide
  rw [Bool.eq_false_iff]
  intro hc
  have hnot := List.all_eq_true.mp hactive c (List.contains_iff_mem.mp hc)
  rw [h] at hnot
  cases hnot

/-- Whether a reader that is between given quotes reads the rest of a line as words. -/
def GoesOn (q : Quotes) (cs : List Char) : Prop :=
  ∃ st : WordState, st.quotes = q ∧ (readShellWordsFrom st cs).isSome = true

/-- A reader outside quotes, whether it is in a word or not, goes on behind a blank, a quote or a safe
character only. -/
theorem goesOn_of_outside {c : Char} {v w cs : List Char} {r : Option (List (List Char))}
    (hblank : r.isSome = true → (readShellWordsFrom .between cs).isSome = true)
    (h : (if c = ' ' ∨ c = '\t' then r
      else if c = '\'' then readShellWordsFrom (.single v) cs
      else if c = '"' then readShellWordsFrom (.double v) cs
      else if isShellSafe c then readShellWordsFrom (.plain w) cs
      else none).isSome = true) :
    Quotes.none.isActive c = false ∧ GoesOn (Quotes.none.after c) cs := by
  split at h
  · next hc =>
    rcases hc with rfl | rfl
    · exact ⟨rfl, .between, rfl, hblank h⟩
    · exact ⟨rfl, .between, rfl, hblank h⟩
  split at h
  · next hc =>
    subst hc
    exact ⟨rfl, .single v, rfl, h⟩
  split at h
  · next hc =>
    subst hc
    exact ⟨rfl, .double v, rfl, h⟩
  split at h
  · next hsingle hdouble hsafe =>
    have hafter : Quotes.none.after c = .none := by
      rw [Quotes.after, if_neg hsingle, if_neg hdouble]
    exact ⟨not_isActive_of_isShellSafe hsafe, .plain w, hafter.symm, h⟩
  · cases h

/-- **One step of the reader:** the character is not active where it stands, and the reader goes on between
the quotes that follow. -/
theorem goesOn_of_cons {st : WordState} {c : Char} {cs : List Char}
    (h : (readShellWordsFrom st (c :: cs)).isSome = true) :
    st.quotes.isActive c = false ∧ GoesOn (st.quotes.after c) cs := by
  cases st with
  | between =>
      rw [readShellWordsFrom_between_cons] at h
      exact goesOn_of_outside id h
  | plain w =>
      rw [readShellWordsFrom_plain_cons] at h
      exact goesOn_of_outside (fun hblank => by rwa [Option.isSome_map] at hblank) h
  | single w =>
      by_cases hquote : c = '\''
      · subst hquote
        rw [readShellWordsFrom_single_quote] at h
        exact ⟨rfl, .plain w, rfl, h⟩
      · rw [readShellWordsFrom_single_of_ne hquote] at h
        exact ⟨rfl, .single (w ++ [c]), (if_neg hquote).symm, h⟩
  | double w =>
      rw [readShellWordsFrom_double_cons] at h
      by_cases hquote : c = '"'
      · subst hquote
        rw [if_pos rfl] at h
        exact ⟨rfl, .plain w, rfl, h⟩
      · by_cases hactive : c = '$' ∨ c = '`' ∨ c = '\\'
        · rw [if_neg hquote, if_pos hactive] at h
          cases h
        · rw [if_neg hquote, if_neg hactive] at h
          refine ⟨?_, .double (w ++ [c]), (if_neg hquote).symm, h⟩
          simpa [WordState.quotes, Quotes.isActive, Quotes.activeBetweenDouble] using hactive

/-- **In a line of words no character has another meaning** where it stands. -/
theorem not_isActive_of_mem_marked {q : Quotes} {cs : List Char} (h : GoesOn q cs) :
    ∀ p ∈ marked q cs, p.1.isActive p.2 = false := by
  induction cs generalizing q with
  | nil => exact fun p hp => by cases hp
  | cons c cs ih =>
      obtain ⟨st, rfl, hst⟩ := h
      obtain ⟨hc, hrest⟩ := goesOn_of_cons hst
      intro p hp
      rcases List.mem_cons.mp hp with rfl | hp
      · exact hc
      · exact ih hrest p hp

end Chars

end LineShell
