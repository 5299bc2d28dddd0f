import LineShell.Proofs.Text.Words
import LineShell.Segment

/-!
# Lines and their segments

A line is cut at its operators from left to right, so that no operator is left in what is cut out
(`isUncut_of_cutAtOperators`), nothing of the line is lost (`rejoined_cutAtOperators`), and a text in which
no operator stands is not cut (`cutAtOperators_of_isUncut`).
What comes next to each other is of no concern to the cut where a character that belongs to no operator
stands between (`cutAtOperators_append_cons`). As this is so for the blanks at either side of an operator,
two lines with an operator and its blanks between them have the segments of the one and then those of the
other (`ofLine_append`).

The rest follows from this. `IsChain` says what the segments of a line are like without a line, and lists
of this kind and no others are what is read back from the line that they make
(`ofLine_unsplit_of_isChain`).

**Main statement** (`ofLine_isChain_and_append`): the segments of any line, of the line that these make,
and of two lines joined by an operator.
-/

namespace LineShell

namespace Segment

/-! ### What is cut out -/

/-- Whether no operator stands in a text. -/
def IsUncut (cs : List Char) : Prop := ∀ op : ChainOperator, ¬ op.symbol.toList <:+: cs

/-- There is no operator in a part of a text either. -/
theorem IsUncut.of_isInfix {cs ds : List Char} (h : IsUncut cs) (hpart : ds <:+: cs) : IsUncut ds :=
  fun op hop => h op (hop.trans hpart)

theorem isUncut_nil : IsUncut [] := by
  intro op hop
  cases op <;> exact absurd hop (by decide)

/-- A text with a character before it holds an operator if one begins with the character. -/
theorem isUncut_cons_iff {c : Char} {cs : List Char} :
    IsUncut (c :: cs) ↔ (∀ op : ChainOperator, ¬ op.symbol.toList <+: c :: cs) ∧ IsUncut cs := by
  simp only [IsUncut, List.infix_cons_iff, not_or, forall_and]

/-- The first text that is cut out is the beginning of the line. -/
theorem cutAtOperators_isPrefix (cs : List Char) : (cutAtOperators cs).1 <+: cs := by
  fun_induction cutAtOperators cs with
  | case1 => exact List.prefix_rfl
  | case2 => exact List.nil_prefix
  | case3 => exact List.nil_prefix
  | case4 c cs _ _ text rest hcut ih =>
      rw [hcut] at ih
      exact (List.prefix_cons_inj c).mpr ih

/-- Where the cut goes on behind a character, no operator begins with it. -/
theorem not_isPrefix_of_uncut {c : Char} {cs : List Char}
    (hand : ∀ ds, c = '&' → cs = '&' :: ds → False) (hor : ∀ ds, c = '|' → cs = '|' :: ds → False)
    (op : ChainOperator) : ¬ op.symbol.toList <+: c :: cs := by
  cases op with
  | andThen =>
      rintro ⟨ds, hds⟩
      cases hds
      exact hand ds rfl rfl
  | orElse =>
      rintro ⟨ds, hds⟩
      cases hds
      exact hor ds rfl rfl

/-- **No operator is left** in what is cut out. -/
theorem isUncut_of_cutAtOperators (cs : List Char) :
    IsUncut (cutAtOperators cs).1 ∧ ∀ p ∈ (cutAtOperators cs).2, IsUncut p.2 := by
  fun_induction cutAtOperators cs with
  | case1 => exact ⟨isUncut_nil, by simp⟩
  | case2 cs text rest hcut ih | case3 cs text rest hcut ih =>
      rw [hcut] at ih
      exact ⟨isUncut_nil, List.forall_mem_cons.mpr ih⟩
  | case4 c cs hand hor text rest hcut ih =>
      have hprefix := cutAtOperators_isPrefix cs
      rw [hcut] at ih hprefix
      refine ⟨isUncut_cons_iff.mpr ⟨fun op hop => ?_, ih.1⟩, ih.2⟩
      -- an operator at the start of the text would stand at the start of the line as well
      exact not_isPrefix_of_uncut hand hor op (hop.trans ((List.prefix_cons_inj c).mpr hprefix))

/-- **A text without an operator** is not cut. -/
theorem cutAtOperators_of_isUncut {cs : List Char} (h : IsUncut cs) : cutAtOperators cs = (cs, []) := by
  fun_induction cutAtOperators cs with
  | case1 => rfl
  | case2 cs => exact absurd ⟨[], cs, rfl⟩ (h .andThen)
  | case3 cs => exact absurd ⟨[], cs, rfl⟩ (h .orElse)
  | case4 c cs _ _ text rest hcut ih =>
      have hrest := ih (isUncut_cons_iff.mp h).2
      rw [hcut] at hrest
      cases hrest
      rfl

/-- The texts that are cut out, with the operators between them. -/
def rejoined (first : List Char) (rest : List (ChainOperator × List Char)) : List Char :=
  first ++ rest.flatMap fun p => p.1.symbol.toList ++ p.2

/-- **Nothing is lost** when a line is cut. -/
theorem rejoined_cutAtOperators (cs : List Char) :
    rejoined (cutAtOperators cs).1 (cutAtOperators cs).2 = cs := by
  fun_induction cutAtOperators cs with
  | case1 => rfl
  | case2 cs text rest hcut ih | case3 cs text rest hcut ih =>
      rw [hcut] at ih
      simpa [rejoined, ChainOperator.symbol] using ih
  | case4 c cs _ _ text rest hcut ih =>
      rw [hcut] at ih
      exact congrArg (c :: ·) ih

/-! ### One text behind another -/

/-- What is cut out of two texts, one behind the other, with no operator where they meet: the last text
of the former and the first of the latter become one. -/
def joinCuts (first : List Char) (rest : List (ChainOperator × List Char)) :
    List Char → List (ChainOperator × List Char) → List Char × List (ChainOperator × List Char)
  | text, [] => (text ++ first, rest)
  | text, (op, next) :: more =>
      (text, (op, (joinCuts first rest next more).1) :: (joinCuts first rest next more).2)

theorem joinCuts_cons (first : List Char) (rest : List (ChainOperator × List Char)) (c : Char)
    (text : List Char) (more : List (ChainOperator × List Char)) :
    joinCuts first rest (c :: text) more =
      (c :: (joinCuts first rest text more).1, (joinCuts first rest text more).2) := by
  cases more <;> rfl

/-- **Texts are cut apart from each other** where a character stands between them that belongs to no
operator. -/
theorem cutAtOperators_append_cons {c : Char} (hand : c ≠ '&') (hor : c ≠ '|') (as bs : List Char) :
    cutAtOperators (as ++ c :: bs) =
      joinCuts (c :: (cutAtOperators bs).1) (cutAtOperators bs).2 (cutAtOperators as).1
        (cutAtOperators as).2 := by
  have hmiddle : cutAtOperators (c :: bs) = (c :: (cutAtOperators bs).1, (cutAtOperators bs).2) := by
    rw [cutAtOperators]
    · exact fun _ h => absurd h hand
    · exact fun _ h => absurd h hor
  fun_induction cutAtOperators as with
  | case1 => exact hmiddle
  | case2 as text rest hcut ih | case3 as text rest hcut ih =>
      rw [hcut] at ih
      simp only [List.cons_append, cutAtOperators, ih, joinCuts]
  | case4 a as ha ho text rest hcut ih =>
      rw [hcut] at ih
      rw [joinCuts_cons, ← ih, List.cons_append, cutAtOperators]
      -- the character behind `a` is the same as before, or it is `c`
      · intro ds h hds
        cases as with
        | nil => exact hand (List.cons.inj hds).1
        | cons b as => exact ha as h (by rw [(List.cons.inj hds).1])
      · intro ds h hds
        cases as with
        | nil => exact hor (List.cons.inj hds).1
        | cons b as => exact ho as h (by rw [(List.cons.inj hds).1])

/-- Behind a blank, an operator and another blank the cut begins anew. -/
theorem cutAtOperators_operator (op : ChainOperator) (cs : List Char) :
    cutAtOperators (op.symbol.toList ++ ' ' :: cs) =
      ([], (op, ' ' :: (cutAtOperators cs).1) :: (cutAtOperators cs).2) := by
  have hblank : cutAtOperators (' ' :: cs) = (' ' :: (cutAtOperators cs).1, (cutAtOperators cs).2) :=
    cutAtOperators_append_cons (by decide) (by decide) [] cs
  cases op with
  | andThen =>
      show cutAtOperators ('&' :: '&' :: ' ' :: cs) = _
      rw [cutAtOperators, hblank]
  | orElse =>
      show cutAtOperators ('|' :: '|' :: ' ' :: cs) = _
      rw [cutAtOperators, hblank]

/-! ### Segments -/

/-- The segment of a text that is cut out. -/
def ofCut (op : Option ChainOperator) (text : List Char) : Segment :=
  ⟨op, String.ofList (Chars.trim text)⟩

/-- The segments are the texts that are cut out, each trimmed, with the operators before them. -/
theorem ofLine_eq (line : String) :
    ofLine line = ofCut none (cutAtOperators line.toList).1 ::
      (cutAtOperators line.toList).2.map fun p => ofCut (some p.1) p.2 := rfl

/-- A blank behind a text is lost with the trimming. -/
theorem ofCut_joinCuts_blank (rest : List (ChainOperator × List Char)) (op : Option ChainOperator)
    (text : List Char) (more : List (ChainOperator × List Char)) :
    (ofCut op (joinCuts [' '] rest text more).1 ::
        (joinCuts [' '] rest text more).2.map fun p => ofCut (some p.1) p.2) =
      (ofCut op text :: more.map fun p => ofCut (some p.1) p.2) ++
        rest.map fun p => ofCut (some p.1) p.2 := by
  induction more generalizing op text with
  | nil => simp [joinCuts, ofCut, Chars.trim_append_singleton (c := ' ') (by decide)]
  | cons p more ih => simp [joinCuts, ih (some p.1) p.2]

/-- A segment with another operator before it. -/
def withOperator (op : ChainOperator) (s : Segment) : Segment := { s with operator := some op }

/-- **Two lines joined by an operator** have the segments of the one, and then those of the other with
the operator before the first. -/
theorem ofLine_append (first second : String) (op : ChainOperator) :
    ofLine (first ++ " " ++ op.symbol ++ " " ++ second) =
      ofLine first ++ (ofLine second).modifyHead (withOperator op) := by
  have hline : (first ++ " " ++ op.symbol ++ " " ++ second).toList =
      first.toList ++ ' ' :: (op.symbol.toList ++ ' ' :: second.toList) := by
    simp [String.toList_append]
  have hblank : ofCut (some op) (' ' :: (cutAtOperators second.toList).1) =
      withOperator op (ofCut none (cutAtOperators second.toList).1) := by
    simp [ofCut, withOperator, Chars.trim_cons (c := ' ') (by decide)]
  rw [ofLine_eq, hline, cutAtOperators_append_cons (by decide) (by decide), cutAtOperators_operator,
    ofCut_joinCuts_blank, ofLine_eq first, ofLine_eq second]
  simp [hblank]

/-! ### Chains -/

/-- Whether a text can be that of a segment. -/
structure IsClean (text : String) : Prop where
  /-- It is trimmed. -/
  isTrimmed : Chars.IsTrimmed text.toList
  /-- No operator stands in it. -/
  isUncut : IsUncut text.toList

/-- Whether segments can be those of a line: the first of them has no operator, and all others have
one. -/
structure IsChain (ss : List Segment) : Prop where
  /-- There is a first segment, and it alone has no operator. -/
  exists_eq_cons : ∃ text rest, ss = ⟨none, text⟩ :: rest ∧ ∀ s ∈ rest, ∃ op, s.operator = some op
  /-- The texts are such that they are neither cut nor trimmed any further. -/
  isClean : ∀ s ∈ ss, IsClean s.text

/-- What is cut out of a line and trimmed is clean. -/
theorem isClean_ofCut (op : Option ChainOperator) {text : List Char} (h : IsUncut text) :
    IsClean (ofCut op text).text := by
  rw [ofCut]
  constructor
  · rw [String.toList_ofList]
    exact Chars.isTrimmed_trim text
  · rw [String.toList_ofList]
    exact h.of_isInfix (Chars.trim_isInfix text)

/-- **The segments of a line are a chain.** -/
theorem isChain_ofLine (line : String) : IsChain (ofLine line) := by
  obtain ⟨hfirst, hrest⟩ := isUncut_of_cutAtOperators line.toList
  rw [ofLine_eq]
  refine ⟨⟨_, _, rfl, fun s hs => ?_⟩, fun s hs => ?_⟩
  · obtain ⟨p, -, rfl⟩ := List.mem_map.mp hs
    exact ⟨p.1, rfl⟩
  · rcases List.mem_cons.mp hs with rfl | hs
    · exact isClean_ofCut none hfirst
    · obtain ⟨p, hp, rfl⟩ := List.mem_map.mp hs
      exact isClean_ofCut _ (hrest p hp)

/-- A clean text is a line of one segment. -/
theorem ofLine_of_isClean {text : String} (h : IsClean text) : ofLine text = [⟨none, text⟩] := by
  rw [ofLine_eq, cutAtOperators_of_isUncut h.isUncut]
  simp [ofCut, h.isTrimmed.trim_eq]

/-- The line that segments make with one more behind them. -/
theorem unsplit_append_singleton (ss : List Segment) (op : ChainOperator) (text : String) :
    unsplit (ss ++ [⟨some op, text⟩]) = unsplit ss ++ " " ++ op.symbol ++ " " ++ text := by
  apply String.toList_injective
  simp [unsplit, joined, String.toList_append]

/-- **A chain is read back** from the line that it makes. -/
theorem ofLine_unsplit_of_isChain {ss : List Segment} (h : IsChain ss) : ofLine (unsplit ss) = ss := by
  -- the last segment is taken off, so that `ofLine_append` applies
  induction ss using List.reverseRecOn with
  | nil =>
      obtain ⟨text, rest, hss, -⟩ := h.exists_eq_cons
      cases hss
  | append_singleton ss s ih =>
      obtain ⟨text, rest, hss, hrest⟩ := h.exists_eq_cons
      have hclean := h.isClean s (by simp)
      cases ss with
      | nil =>
          cases hss
          have hline : unsplit [⟨none, text⟩] = text := by
            apply String.toList_injective
            simp [unsplit, joined]
          rw [List.nil_append, hline, ofLine_of_isClean hclean]
      | cons t ss =>
          obtain ⟨rfl, rfl⟩ := List.cons.inj hss
          obtain ⟨op, hop⟩ := hrest s (by simp)
          obtain ⟨operator, last⟩ := s
          cases hop
          have hinit : IsChain (⟨none, text⟩ :: ss) :=
            ⟨⟨text, ss, rfl, fun s hs => hrest s (List.mem_append_left _ hs)⟩,
              fun s hs => h.isClean s (List.mem_append_left _ hs)⟩
          rw [unsplit_append_singleton, ofLine_append, ih hinit, ofLine_of_isClean hclean]
          rfl

/-- **The segments of a line.** The first one has no operator and all others have one; every text is
trimmed, and neither operator stands in it. The line that they make, with a blank at either side of each
operator, has the same segments, and the line itself is these texts, before they were trimmed, with the
operators between them. And a line made of two with an operator and its blanks between them has the
segments of the one and then those of the other, the operator before the first of these. -/
theorem ofLine_isChain_and_append :
    (∀ line : String,
      (∃ text rest, ofLine line = ⟨none, text⟩ :: rest ∧ ∀ s ∈ rest, ∃ op, s.operator = some op) ∧
      (∀ s ∈ ofLine line, Chars.IsTrimmed s.text.toList ∧
        ¬ "&&".toList <:+: s.text.toList ∧ ¬ "||".toList <:+: s.text.toList) ∧
      ofLine (unsplit (ofLine line)) = ofLine line ∧
      ∃ first rest, rejoined first rest = line.toList ∧
        ofLine line = ofCut none first :: rest.map fun p => ofCut (some p.1) p.2) ∧
    ∀ (first second : String) (op : ChainOperator),
      ofLine (first ++ " " ++ op.symbol ++ " " ++ second) =
        ofLine first ++ (ofLine second).modifyHead (withOperator op) := by
  refine ⟨fun line => ?_, ofLine_append⟩
  have hchain := isChain_ofLine line
  refine ⟨hchain.exists_eq_cons, fun s hs => ?_, ofLine_unsplit_of_isChain hchain, _, _,
    rejoined_cutAtOperators line.toList, ofLine_eq line⟩
  obtain ⟨htrimmed, huncut⟩ := hchain.isClean s hs
  exact ⟨htrimmed, huncut .andThen, huncut .orElse⟩

/-- Of three signs in a row the first two are the operator. -/
example : ofLine "a &&&b" = [⟨none, "a"⟩, ⟨some .andThen, "&b"⟩] := by decide +kernel

end Segment

end LineShell
