import LineShell.Alias.Define
import LineShell.Proofs.Calc.Grammar
import LineShell.Proofs.Calc.Outcome
import LineShell.Proofs.Text.Words

/-!
# Other ways to give an expression

Only the words of an expression count: its blanks, and how its words are grouped into arguments, are lost
when the expression is normalized (`normalize_congr`). An expression between a pair of quotation marks is
cut into words with the marks at the first and the last of them; put together again, it stands between the
marks once more, and what is taken from between them has the words of the expression
(`evaluate_unquote_of_quoted`).

What is shown in front of a value is an expression too. Its words are those of the expression, each with
stars for its carets (`words_shown`), so it is its own normal form, and showing it changes nothing
(`shown_shown`). But it may have become longer than expressions may be.

**Main statement** (`run_calculator_of_same_words`): what the command does depends on the words of the
expression alone, with quotation marks around it or without, and what it shows can be given to it again.
-/

namespace LineShell

namespace Calc

/-! ### Normal forms -/

/-- Only words count in an expression. -/
theorem normalize_congr {a b : List String}
    (h : Text.words (Text.unwords a) = Text.words (Text.unwords b)) : normalize a = normalize b := by
  unfold normalize
  rw [h]

/-- What is shown of an expression decides what is calculated. -/
theorem calculate_congr {a b : List String} (h : (normalize a).map shown = (normalize b).map shown) :
    calculate a = calculate b := by
  unfold calculate
  cases ha : normalize a with
  | error e =>
      cases hb : normalize b with
      | error f =>
          rw [ha, hb] at h
          cases h
          rfl
      | ok t =>
          rw [ha, hb] at h
          cases h
  | ok s =>
      cases hb : normalize b with
      | error f =>
          rw [ha, hb] at h
          cases h
      | ok t =>
          rw [ha, hb] at h
          have hshown : shown s = shown t := Except.ok.inj h
          simp only [Except.mapError, bind, Except.bind, hshown]

/-- What is shown of an expression decides what it is evaluated to. -/
theorem evaluate_congr {a b : List String} (h : (normalize a).map shown = (normalize b).map shown)
    (room : Nat) : evaluate room a = evaluate room b := by
  rw [evaluate, evaluate, calculate_congr h]

/-- Groups of words are evaluated as the words are. -/
theorem evaluate_of_words_eq {a b : List String}
    (h : a.flatMap Text.words = b.flatMap Text.words) (room : Nat) :
    evaluate room a = evaluate room b := by
  rw [← Text.words_unwords_eq_flatMap, ← Text.words_unwords_eq_flatMap] at h
  exact evaluate_congr (congrArg (Except.map shown) (normalize_congr h)) room

/-! ### Shown expressions -/

/-- A caret is shown with stars, and any other character as it is. -/
theorem cases_of_mem_shownChars {cs : List Char} {ch : Char} (h : ch ∈ shownChars cs) :
    ch = '*' ∨ ch ≠ '^' ∧ ch ∈ cs := by
  obtain ⟨c, hc, hch⟩ := List.mem_flatMap.mp h
  split at hch
  · exact .inl (by simpa using hch)
  · next hne =>
    rw [List.mem_singleton.mp hch]
    exact .inr ⟨hne, hc⟩

/-- What is shown is shown as it is, since no caret is left. -/
theorem shown_shown (text : String) : shown (shown text) = shown text := by
  have hagain : shownChars (shownChars text.toList) = shownChars text.toList := by
    refine shownChars_eq_self fun ch hch => ?_
    rcases cases_of_mem_shownChars hch with rfl | ⟨hne, -⟩
    · decide
    · exact hne
  rw [shown, shown, String.toList_ofList, hagain]

/-- A word is shown as a word. -/
theorem isWord_shown {w : String} (hw : Text.IsWord w) : Text.IsWord (shown w) := by
  rw [Text.IsWord, shown, String.toList_ofList]
  refine ⟨?_, fun ch hch => ?_⟩
  · obtain ⟨c, cs, hcs⟩ := List.exists_cons_of_ne_nil hw.ne_nil
    rw [hcs]
    by_cases hc : c = '^'
    · rw [hc, shownChars_caret]
      exact List.cons_ne_nil _ _
    · rw [shownChars_cons_of_ne hc]
      exact List.cons_ne_nil _ _
  · rcases cases_of_mem_shownChars hch with rfl | ⟨-, hmem⟩
    · decide
    · exact hw.not_isBlank ch hmem

/-- Words are shown one by one. -/
theorem shown_unwords (ws : List String) : shown (Text.unwords ws) = Text.unwords (ws.map shown) := by
  induction ws with
  | nil => rfl
  | cons w ws ih =>
      rw [List.map_cons]
      by_cases hne : ws = []
      · subst hne
        rw [List.map_nil, Text.unwords_singleton, Text.unwords_singleton]
      · have hne' : ws.map shown ≠ [] := by simpa using hne
        rw [← String.toList_inj, Text.toList_unwords_cons_of_ne_nil _ hne', ← ih, shown, shown, shown,
          Text.toList_unwords_cons_of_ne_nil _ hne, shownChars_append, shownChars_cons_of_ne (by decide)]
        simp only [String.toList_ofList]

/-- The words of what is shown. -/
theorem words_shown {ws : List String} (hws : ∀ w ∈ ws, Text.IsWord w) :
    Text.words (shown (Text.unwords ws)) = ws.map shown := by
  rw [shown_unwords]
  refine Text.words_unwords fun v hv => ?_
  obtain ⟨w, hw, rfl⟩ := List.mem_map.mp hv
  exact isWord_shown (hws w hw)

/-- **What is shown is its own normal form**, unless it has become too long. -/
theorem normalize_shown {ws : List String} {text : String} (h : normalize ws = .ok text) :
    normalize [shown text] =
      if maxInput < (shown text).length then .error .tooLong else .ok (shown text) := by
  obtain ⟨htext, hne, -, hchars⟩ := normalize_eq_ok_iff.mp h
  have hwords : ∀ w ∈ Text.words (Text.unwords ws), Text.IsWord w := fun w hw => Text.isWord_of_mem_words hw
  have hagain : Text.unwords (Text.words (Text.unwords [shown text])) = shown text := by
    rw [Text.unwords_singleton, htext, words_shown hwords, shown_unwords]
  have hsome : ¬ (shown text).isEmpty = true := by
    rw [String.isEmpty_iff]
    intro hempty
    have hread := words_shown hwords
    rw [← htext, hempty] at hread
    have hnil : Text.words (Text.unwords ws) = [] := List.map_eq_nil_iff.mp hread.symm
    rw [hnil] at htext
    exact hne htext
  have hvalid : ¬ (!(shown text).toList.all isExpressionChar) = true := by
    have hall : (shown text).toList.all isExpressionChar = true := by
      rw [List.all_eq_true, shown, String.toList_ofList]
      intro ch hch
      rcases cases_of_mem_shownChars hch with rfl | ⟨-, hmem⟩
      · decide
      · exact hchars ch hmem
    simp [hall]
  unfold normalize
  rw [hagain]
  simp only []
  rw [if_neg hsome, if_neg hvalid]

/-- **What is shown comes to the same value**, unless it has become too long. -/
theorem evaluate_shown {ws : List String} {text : String} (h : normalize ws = .ok text) (room : Nat) :
    evaluate room [shown text] =
      if maxInput < (shown text).length then .error (.rejected .tooLong) else evaluate room ws := by
  have hagain := normalize_shown h
  split
  · next hlong =>
    rw [if_pos hlong] at hagain
    exact evaluate_of_normalize_error hagain room
  · next hshort =>
    rw [if_neg hshort] at hagain
    refine evaluate_congr ?_ room
    rw [hagain, h]
    exact congrArg Except.ok (shown_shown text)

/-- A line that is shown has the expression in front of an equals sign, which the expression has none of. -/
theorem exists_of_evaluate_eq_ok {room : Nat} {ws : List String} {line : String}
    (h : evaluate room ws = .ok line) :
    ∃ text value, normalize ws = .ok text ∧ line = shown text ++ " = " ++ value ∧
      '=' ∉ (shown text).toList := by
  cases hn : normalize ws with
  | error e =>
      rw [evaluate_of_normalize_error hn] at h
      cases h
  | ok text =>
      cases hc : chainOf (shown text) with
      | error e =>
          rw [evaluate_of_chainOf_error hn hc] at h
          cases h
      | ok c =>
          rw [evaluate_of_chainOf hn hc] at h
          cases hv : c.value with
          | error f =>
              rw [hv] at h
              cases h
          | ok v =>
              rw [hv] at h
              refine ⟨text, v.plain, rfl, eq_of_answerLine_eq_ok h, ?_⟩
              intro hmem
              rw [shown, String.toList_ofList] at hmem
              rcases cases_of_mem_shownChars hmem with heq | ⟨-, hmem⟩
              · exact absurd heq (by decide)
              · exact absurd (isExpressionChar_of_normalize hn _ hmem) (by decide)

end Calc

/-! ### Quotation marks -/

namespace Command

open Calc
open Alias (isQuote)

/-- A quotation mark is no blank. -/
theorem isBlank_of_isQuote {c : Char} (h : isQuote c = true) : isBlank c = false := by
  simp only [isQuote, Bool.or_eq_true, beq_iff_eq] at h
  rcases h with rfl | rfl
  · decide
  · decide

/-- A text without quotation marks does not stand between two of them. -/
theorem isQuoted_of_not_isQuote {cs : List Char} (h : ∀ ch ∈ cs, isQuote ch = false) :
    isQuoted cs = false := by
  cases cs with
  | nil => rfl
  | cons c cs =>
      have hc : isQuote c = false := h c List.mem_cons_self
      simp only [isQuote, Bool.or_eq_false_iff, beq_eq_false_iff_ne] at hc
      simp [isQuoted, hc.1, hc.2]

/-- A text between two marks stands between them. -/
theorem isQuoted_mark {mark : Char} (hmark : isQuote mark = true) (cs : List Char) :
    isQuoted (mark :: (cs ++ [mark])) = true := by
  have hlast : (mark :: (cs ++ [mark])).getLast? = some mark := by
    rw [← List.cons_append, List.getLast?_concat]
  simp only [isQuote, Bool.or_eq_true, beq_iff_eq] at hmark
  simp [isQuoted, hlast, hmark]

/-- Arguments with the words of a text without quotation marks have none either. -/
theorem not_isQuote_of_words_eq {args : List String} {e : String}
    (hargs : args.flatMap Text.words = Text.words e) (he : ∀ ch ∈ e.toList, isQuote ch = false) :
    ∀ ch ∈ (Text.unwords args).toList, isQuote ch = false := by
  rw [← Text.words_unwords_eq_flatMap] at hargs
  have hchars := congrArg List.flatten (Text.chars_words_eq_of_words_eq hargs)
  rw [Chars.flatten_words, Chars.flatten_words] at hchars
  intro ch hch
  rw [← Bool.not_eq_true]
  intro hquote
  have hmem : ch ∈ (Text.unwords args).toList.filter (!isBlank ·) :=
    List.mem_filter.mpr ⟨hch, by simp [isBlank_of_isQuote hquote]⟩
  rw [hchars] at hmem
  rw [he ch (List.mem_filter.mp hmem).1] at hquote
  cases hquote

/-- Without quotation marks the words are evaluated. -/
theorem evaluate_unquote_of_not_quoted {args : List String} {e : String}
    (hargs : args.flatMap Text.words = Text.words e) (he : ∀ ch ∈ e.toList, isQuote ch = false)
    (room : Nat) : evaluate room (unquote args) = evaluate room [e] := by
  have hquoted : isQuoted (Chars.trim (Text.unwords args).toList) = false := by
    refine isQuoted_of_not_isQuote fun ch hch => ?_
    exact not_isQuote_of_words_eq hargs he ch ((Chars.trim_isInfix _).subset hch)
  rw [unquote_of_not_quoted hquoted]
  refine evaluate_of_words_eq ?_ room
  simpa using hargs

/-- **With quotation marks what stands between them is evaluated.** -/
theorem evaluate_unquote_of_quoted {mark : Char} (hmark : isQuote mark = true) {args : List String}
    {e : String}
    (hargs : args.flatMap Text.words = Text.words (String.singleton mark ++ e ++ String.singleton mark))
    (room : Nat) : evaluate room (unquote args) = evaluate room [e] := by
  rw [← Text.words_unwords_eq_flatMap] at hargs
  have hchars := Text.chars_words_eq_of_words_eq hargs
  have htrimmed : Chars.words (Chars.trim (Text.unwords args).toList) =
      Chars.words (mark :: (e.toList ++ [mark])) := by
    rw [Chars.words_trim, hchars]
    simp
  obtain ⟨inner, htrim, hinner⟩ := (Chars.isTrimmed_trim (Text.unwords args).toList).exists_of_words_eq
    (isBlank_of_isQuote hmark) htrimmed
  have hunquote : unquote args = [String.ofList inner] := by
    unfold unquote
    rw [htrim]
    simp only []
    rw [if_pos (isQuoted_mark hmark inner), inside, List.tail_cons, List.dropLast_concat]
  rw [hunquote]
  refine evaluate_of_words_eq ?_ room
  simp [Text.words, hinner]

end Command

namespace Calc

open Alias (isQuote)

/-- **What is calculated depends on the words alone.** Take a text with a word and without quotation marks.
The command does the same in every state and world, with the same answer, the same diagnostics and the same
fault, for its words, for any arguments that have these words between them, and for any arguments that have
the words of the text between a pair of quotation marks. And a line that is shown has an expression in
front of its equals sign, the normal form with stars for carets. Evaluating this expression shows the same
line if it is no longer than expressions may be, and is turned down for its length if it is. -/
theorem run_calculator_of_same_words :
    (∀ (e : String) (catalogue : Catalogue), Text.words e ≠ [] → (∀ ch ∈ e.toList, isQuote ch = false) →
        (∀ args : List String, args.flatMap Text.words = Text.words e →
          Command.calculator.run catalogue args = Command.calculator.run catalogue (Text.words e)) ∧
        ∀ (mark : Char) (args : List String), isQuote mark = true →
          args.flatMap Text.words =
            Text.words (String.singleton mark ++ e ++ String.singleton mark) →
          Command.calculator.run catalogue args = Command.calculator.run catalogue (Text.words e)) ∧
      ∀ (room : Nat) (ws : List String) (line : String), evaluate room ws = .ok line →
        ∃ expression value, (normalize ws).map shown = .ok expression ∧
          line = expression ++ " = " ++ value ∧ '=' ∉ expression.toList ∧
          (expression.length ≤ maxInput → evaluate room [expression] = .ok line) ∧
          (maxInput < expression.length → evaluate room [expression] = .error (.rejected .tooLong)) := by
  have hself : ∀ e : String, (Text.words e).flatMap Text.words = Text.words e := by
    intro e
    rw [← Text.words_unwords_eq_flatMap, Text.words_unwords fun w hw => Text.isWord_of_mem_words hw]
  refine ⟨fun e catalogue hwords he => ?_, fun room ws line hline => ?_⟩
  · -- any of these arguments are evaluated as the text itself is
    have hrun : ∀ args : List String, args.flatMap Text.words ≠ [] →
        (∀ room, evaluate room (Command.unquote args) = evaluate room [e]) →
        Command.calculator.run catalogue args =
          ⟨fun c => (Command.calcReply (evaluate c.host.room [e])).run c⟩ := by
      intro args hargs heval
      have hne : args ≠ [] := by
        rintro rfl
        exact hargs rfl
      refine Act.ext fun c s => ?_
      have hargs := Command.run_runCalc_of_ne_nil hne c s
      rw [heval] at hargs
      exact hargs
    have hwordsRun := hrun (Text.words e) (by rwa [hself e])
      (Command.evaluate_unquote_of_not_quoted (hself e) he)
    refine ⟨fun args hargs => ?_, fun mark args hmark hargs => ?_⟩
    · rw [hwordsRun]
      exact hrun args (by rwa [hargs]) (Command.evaluate_unquote_of_not_quoted hargs he)
    · rw [hwordsRun]
      refine hrun args ?_ (Command.evaluate_unquote_of_quoted hmark hargs)
      rw [hargs]
      intro hnil
      have hblank := Chars.words_eq_nil_iff.mp (List.map_eq_nil_iff.mp hnil) mark (by simp)
      rw [Command.isBlank_of_isQuote hmark] at hblank
      cases hblank
  · obtain ⟨text, value, hn, hshown, hnot⟩ := exists_of_evaluate_eq_ok hline
    refine ⟨shown text, value, by rw [hn]; rfl, hshown, hnot, fun hshort => ?_, fun hlong => ?_⟩
    · rw [evaluate_shown hn, if_neg (Nat.not_lt.mpr hshort), hline]
    · rw [evaluate_shown hn, if_pos hlong]

/-- An expression with a power, given as two arguments and as three between quotation marks: it is answered
alike if there is room for two digits, and so is what is shown of it, which is longer by a star. -/
theorem run_calculator_of_quoted_power :
    Text.words " 2 + 2^3 " ≠ [] ∧ (∀ ch ∈ " 2 + 2^3 ".toList, isQuote ch = false) ∧
      (∀ c s, 2 ≤ c.host.room → ∀ args ∈ [["2 +", "2^3"], ["'", "2 + 2^3", "'"]],
        (Command.calculator.run [] args).run c s = ⟨.ok (.text "2 + 2**3 = 10"), s, []⟩) ∧
      ∀ room, 2 ≤ room → evaluate room ["2", "+", "2^3"] = .ok "2 + 2**3 = 10" ∧
        evaluate room ["2 + 2**3"] = .ok "2 + 2**3 = 10" := by
  have hwords : Text.words " 2 + 2^3 " = ["2", "+", "2^3"] := by decide +kernel
  have hne : Text.words " 2 + 2^3 " ≠ [] := by
    rw [hwords]
    exact List.cons_ne_nil _ _
  have hall : " 2 + 2^3 ".toList.all (!isQuote ·) = true := by decide +kernel
  have hmarks : ∀ ch ∈ " 2 + 2^3 ".toList, isQuote ch = false := by simpa using hall
  have hcalculate : calculate ["2", "+", "2^3"] = .ok ("2 + 2**3", .ofInt 10) := by decide +kernel
  have hline : ∀ room, 2 ≤ room → evaluate room ["2", "+", "2^3"] = .ok "2 + 2**3 = 10" := by
    intro room hroom
    have hplain : (Decimal.ofInt 10).hasRoom room = true := by
      have hdigits : (Decimal.ofInt 10).roomFor = 2 := by decide +kernel
      rw [Decimal.hasRoom, hdigits, decide_eq_true hroom]
    rw [evaluate, hcalculate]
    exact answerLine_of_hasRoom hplain _
  obtain ⟨hsame, hquoted⟩ := run_calculator_of_same_words.1 " 2 + 2^3 " [] hne hmarks
  have hagain : ∀ room, 2 ≤ room → evaluate room ["2 + 2**3"] = .ok "2 + 2**3 = 10" := by
    intro room hroom
    obtain ⟨expression, value, hshown, -, -, hagain, -⟩ :=
      run_calculator_of_same_words.2 room _ _ (hline room hroom)
    have hexpression : (normalize ["2", "+", "2^3"]).map shown = .ok "2 + 2**3" := by decide +kernel
    obtain rfl : expression = "2 + 2**3" := Except.ok.inj (hshown.symm.trans hexpression)
    exact hagain (by decide +kernel)
  have hunquoted : Command.unquote ["2", "+", "2^3"] = ["2", "+", "2^3"] := by decide +kernel
  refine ⟨hne, hmarks, fun c s hroom args hargs => ?_, fun room hroom => ⟨hline room hroom, hagain room hroom⟩⟩
  have hanswer : (Command.calculator.run [] ["2", "+", "2^3"]).run c s =
      ⟨.ok (.text "2 + 2**3 = 10"), s, []⟩ := by
    refine (Command.run_runCalc_of_ne_nil (List.cons_ne_nil _ _) c s).trans ?_
    rw [hunquoted, hline _ hroom]
    rfl
  rw [hwords] at hsame hquoted
  rw [← hanswer]
  simp only [List.mem_cons, List.not_mem_nil, or_false] at hargs
  rcases hargs with rfl | rfl
  · rw [hsame _ (by decide +kernel)]
  · rw [hquoted '\'' _ (by decide) (by decide +kernel)]

end Calc

end LineShell
