import LineShell.Command.Files
import LineShell.Proofs.Decimal.Canonical

/-!
# Sorting numbers

What `sort` makes of words of which none names a file. It returns nothing but the line of the
numbers in order, or a diagnostic about the first word that is no number (`runSort_cases`).

The line depends on the numbers only. Two sequences of numbers in order are equal if each number
stands in both the same number of times, and equal numbers have one notation, so that neither the
order nor the spelling of the words matters (`sortedLine_eq_of_perm`). For the same reason the words
of a line, which are read as the numbers that were written, are in order already
(`sortedLine_of_map_plain`).

**Main statement** (`runSort_sorts_numbers`): the laws of sorting.
-/

namespace LineShell

namespace Command

open Decimal (read? plain toRat)

/-! ### Reading the words -/

section

variable {room : Nat}

theorem readNumbers_cons (room : Nat) (w : String) (ws : List String) :
    readNumbers room (w :: ws) = match read? w with
      | none => .error (.invalid w)
      | some n => if n.hasRoom room then (readNumbers room ws).map (n :: ·) else .error .noRoom := rfl

theorem readNumbers_cons_of_hasRoom {w : String} {n : Decimal} (hw : read? w = some n)
    (hroom : n.hasRoom room = true)
    (ws : List String) : readNumbers room (w :: ws) = (readNumbers room ws).map (n :: ·) := by
  rw [readNumbers_cons, hw]
  exact if_pos hroom

theorem readNumbers_cons_of_not_hasRoom {w : String} {n : Decimal} (hw : read? w = some n)
    (hroom : ¬ n.hasRoom room = true) (ws : List String) : readNumbers room (w :: ws) = .error .noRoom := by
  rw [readNumbers_cons, hw]
  exact if_neg hroom

theorem readNumbers_cons_of_read?_eq_none {w : String} (hw : read? w = none) (ws : List String) :
    readNumbers room (w :: ws) = .error (.invalid w) := by
  rw [readNumbers_cons, hw]

/-- All words are read exactly if each is and there is room for each number. -/
theorem readNumbers_eq_ok_iff {ws : List String} {ds : List Decimal} :
    readNumbers room ws = .ok ds ↔ ws.map read? = ds.map some ∧ ∀ d ∈ ds, d.hasRoom room = true := by
  induction ws generalizing ds with
  | nil => cases ds <;> simp [readNumbers]
  | cons w ws ih =>
      constructor
      · intro h
        cases hw : read? w with
        | none => rw [readNumbers_cons_of_read?_eq_none hw] at h; cases h
        | some n =>
            by_cases hroom : n.hasRoom room = true
            · rw [readNumbers_cons_of_hasRoom hw hroom] at h
              cases hws : readNumbers room ws with
              | error e => rw [hws] at h; cases h
              | ok es =>
                  rw [hws] at h
                  cases h
                  obtain ⟨hmap, hall⟩ := ih.mp hws
                  exact ⟨by simp [hw, hmap], List.forall_mem_cons.mpr ⟨hroom, hall⟩⟩
            · rw [readNumbers_cons_of_not_hasRoom hw hroom] at h
              cases h
      · rintro ⟨hmap, hall⟩
        obtain ⟨n, es, rfl, hw, hws⟩ := List.map_eq_cons_iff.mp hmap.symm
        obtain ⟨hroom, hrest⟩ := List.forall_mem_cons.mp hall
        rw [readNumbers_cons_of_hasRoom hw.symm hroom, ih.mpr ⟨hws.symm, hrest⟩]
        rfl

/-- A word that is turned down is no number. -/
theorem read?_eq_none_of_readNumbers {ws : List String} {w : String}
    (h : readNumbers room ws = .error (.invalid w)) : w ∈ ws ∧ read? w = none := by
  induction ws with
  | nil => cases h
  | cons v ws ih =>
      cases hv : read? v with
      | none =>
          rw [readNumbers_cons_of_read?_eq_none hv] at h
          cases h
          exact ⟨List.mem_cons_self, hv⟩
      | some n =>
          by_cases hroom : n.hasRoom room = true
          · rw [readNumbers_cons_of_hasRoom hv hroom] at h
            cases hws : readNumbers room ws with
            | error e =>
                rw [hws] at h
                cases h
                exact ⟨List.mem_cons_of_mem _ (ih hws).1, (ih hws).2⟩
            | ok es => rw [hws] at h; cases h
          · rw [readNumbers_cons_of_not_hasRoom hv hroom] at h
            cases h

/-- The first word that is no number is found, unless there is no room for a number before it. -/
theorem readNumbers_append_cons {before behind : List String} {w : String}
    (hbefore : ∀ v ∈ before, read? v ≠ none) (hw : read? w = none) :
    readNumbers room (before ++ w :: behind) = .error (.invalid w) ∨
      readNumbers room (before ++ w :: behind) = .error .noRoom := by
  induction before with
  | nil =>
      exact .inl (readNumbers_cons_of_read?_eq_none hw behind)
  | cons v before ih =>
      obtain ⟨n, hn⟩ := Option.ne_none_iff_exists'.mp (hbefore v List.mem_cons_self)
      rw [List.cons_append]
      by_cases hroom : n.hasRoom room = true
      · rw [readNumbers_cons_of_hasRoom hn hroom]
        rcases ih fun u hu => hbefore u (List.mem_cons_of_mem _ hu) with h | h
        · rw [h]
          exact .inl rfl
        · rw [h]
          exact .inr rfl
      · exact .inr (readNumbers_cons_of_not_hasRoom hn hroom _)

end

/-- In another order the words are read as the numbers in another order. -/
theorem exists_map_read?_of_perm {vs ws : List String} {ns : List Decimal} (hperm : vs.Perm ws)
    (hns : ws.map read? = ns.map some) :
    ∃ ms : List Decimal, vs.map read? = ms.map some ∧ ms.Perm ns := by
  induction hperm generalizing ns with
  | nil => exact ⟨ns, hns, .refl ns⟩
  | cons w _ ih =>
      obtain ⟨n, ns, rfl, hw, hws⟩ := List.map_eq_cons_iff.mp hns.symm
      obtain ⟨ms, hms, hperm⟩ := ih hws.symm
      exact ⟨n :: ms, by simp [hms, hw], hperm.cons n⟩
  | swap v w ws =>
      obtain ⟨m, ns, rfl, hv, hns⟩ := List.map_eq_cons_iff.mp hns.symm
      obtain ⟨n, ns, rfl, hw, hws⟩ := List.map_eq_cons_iff.mp hns
      exact ⟨n :: m :: ns, by simp [hv, hw, hws], .swap m n ns⟩
  | trans _ _ ih₁ ih₂ =>
      obtain ⟨ms, hms, hperm⟩ := ih₂ hns
      obtain ⟨ls, hls, hperm'⟩ := ih₁ hms
      exact ⟨ls, hls, hperm'.trans hperm⟩

/-! ### Returning -/

/-- Whether a word names a file. -/
def NamesFile (s : Store) (w : String) : Prop := s.disk.isFile (Path.ofString w) = .ok true

/-- The line of numbers in order. -/
def sortedLine (ds : List Decimal) : String := Text.unwords ((sortNumbers ds).map plain)

/-- If the first word is known to name no file, the words are taken for numbers. -/
theorem run_runSort_of_isFile {w : String} {ws : List String} {c : Context} {s : Store}
    (h : s.disk.isFile (Path.ofString w) = .ok false) :
    (runSort (w :: ws)).run c s = (sortReply (readNumbers c.host.room (w :: ws))).run c s := by
  simp [runSort, h, Act.ofExcept]

/-- If `sort` returns, with no file to sort, it has found numbers or a word that is none. -/
theorem runSort_cases {w : String} {ws : List String} {c : Context} {s : Store} {r : Reply}
    (hfree : ¬ NamesFile s w) (hr : ((runSort (w :: ws)).run c s).result = .ok r) :
    (∃ ds, readNumbers c.host.room (w :: ws) = .ok ds ∧
      (runSort (w :: ws)).run c s = ⟨.ok (.text (sortedLine ds)), s, []⟩) ∨
    (∃ v, readNumbers c.host.room (w :: ws) = .error (.invalid v) ∧
      (runSort (w :: ws)).run c s = ⟨.ok .nothing, s, [.err s!"Invalid number: {v}"]⟩) := by
  have hfile : s.disk.isFile (Path.ofString w) = .ok false := by
    cases hfile : s.disk.isFile (Path.ofString w) with
    | error f => simp [runSort, hfile, Act.ofExcept] at hr
    | ok b =>
        cases b
        · rfl
        · exact absurd hfile hfree
  rw [run_runSort_of_isFile hfile] at hr ⊢
  cases hread : readNumbers c.host.room (w :: ws) with
  | error e =>
      rw [hread] at hr
      cases e with
      | invalid v => exact .inr ⟨v, rfl, rfl⟩
      | noRoom => cases hr
  | ok ds => exact .inl ⟨ds, rfl, rfl⟩

/-! ### The line -/

/-- Sorted numbers are in order. -/
theorem pairwise_sortNumbers (ds : List Decimal) :
    (sortNumbers ds).Pairwise fun a b => a.toRat ≤ b.toRat := by
  have htrans : ∀ a b c : Decimal, a.le b = true → b.le c = true → a.le c = true := by
    intro a b c hab hbc
    rw [Decimal.le_iff_toRat_le] at hab hbc ⊢
    exact hab.trans hbc
  have htotal : ∀ a b : Decimal, (a.le b || b.le a) = true := by
    intro a b
    rw [Bool.or_eq_true, Decimal.le_iff_toRat_le, Decimal.le_iff_toRat_le]
    exact le_total _ _
  refine (List.pairwise_mergeSort htrans htotal ds).imp ?_
  intro a b h
  exact Decimal.le_iff_toRat_le.mp h

/-- Numbers in order stay in their places. -/
theorem sortNumbers_of_pairwise {ds : List Decimal} (h : ds.Pairwise fun a b => a.le b = true) :
    sortNumbers ds = ds :=
  List.mergeSort_of_pairwise h

/-- Texts of equal numbers are equal. -/
theorem map_plain_eq_of_map_toRat_eq {as bs : List Decimal} (h : as.map toRat = bs.map toRat) :
    as.map plain = bs.map plain := by
  induction as generalizing bs with
  | nil =>
      obtain rfl := List.map_eq_nil_iff.mp h.symm
      rfl
  | cons a as ih =>
      obtain ⟨b, bs, rfl, hb, hbs⟩ := List.map_eq_cons_iff.mp h.symm
      rw [List.map_cons, List.map_cons, Decimal.plain_eq_of_toRat_eq hb.symm, ih hbs.symm]

/-- **The line depends on the numbers only**, each of them as often as it stands there. -/
theorem sortedLine_eq_of_perm {as bs : List Decimal} (h : (as.map toRat).Perm (bs.map toRat)) :
    sortedLine as = sortedLine bs := by
  have hsorted : ∀ ds, ((sortNumbers ds).map toRat).Pairwise (· ≤ ·) :=
    fun ds => List.pairwise_map.mpr (pairwise_sortNumbers ds)
  have hperm : ((sortNumbers as).map toRat).Perm ((sortNumbers bs).map toRat) :=
    ((perm_sortNumbers as).map toRat).trans (h.trans ((perm_sortNumbers bs).map toRat).symm)
  have hvalues : (sortNumbers as).map toRat = (sortNumbers bs).map toRat :=
    hperm.eq_of_pairwise (fun a b _ _ => le_antisymm) (hsorted as) (hsorted bs)
  rw [sortedLine, sortedLine, map_plain_eq_of_map_toRat_eq hvalues]

/-- The words of the line are the texts of the numbers. -/
theorem words_sortedLine (ds : List Decimal) :
    Text.words (sortedLine ds) = (sortNumbers ds).map plain := by
  have hword : ∀ v ∈ (sortNumbers ds).map plain, Text.IsWord v := by
    intro v hv
    obtain ⟨d, -, rfl⟩ := List.mem_map.mp hv
    rw [Text.IsWord, plain, String.toList_ofList]
    exact d.isWord_plainChars
  exact Text.words_unwords hword

/-- The words of a line are read as the numbers in it. -/
theorem exists_map_read?_words {ws : List String} {ns : List Decimal} (h : ws.map read? = ns.map some) :
    ∃ es : List Decimal, (Text.words (sortedLine ns)).map read? = es.map some ∧
      es.map toRat = (sortNumbers ns).map toRat := by
  have hplaceable : ∀ d ∈ sortNumbers ns, d.isPlaceable = true := by
    intro d hd
    have hmem : some d ∈ ws.map read? := by
      rw [h]
      exact List.mem_map_of_mem ((perm_sortNumbers ns).mem_iff.mp hd)
    obtain ⟨w, -, hw⟩ := List.mem_map.mp hmem
    exact Decimal.isPlaceable_of_read? hw
  rw [words_sortedLine]
  generalize sortNumbers ns = ds at hplaceable ⊢
  induction ds with
  | nil => exact ⟨[], rfl, rfl⟩
  | cons d ds ih =>
      obtain ⟨es, hes, hvalues⟩ := ih fun e he => hplaceable e (List.mem_cons_of_mem _ he)
      obtain ⟨e, he, hvalue⟩ := Decimal.exists_read?_plain (hplaceable d List.mem_cons_self)
      exact ⟨e :: es, by simp [he, hes], by simp [hvalue, hvalues]⟩

/-! ### The laws -/

/-- Whether a line holds given numbers in order, each of them as often as it is given. -/
def HoldsInOrder (ns : List Decimal) (line : String) : Prop :=
  ∃ ds : List Decimal, Text.words line = ds.map plain ∧ ds.Perm ns ∧
    ds.Pairwise fun a b => a.toRat ≤ b.toRat

theorem holdsInOrder_sortedLine (ns : List Decimal) : HoldsInOrder ns (sortedLine ns) :=
  ⟨sortNumbers ns, words_sortedLine ns, perm_sortNumbers ns, pairwise_sortNumbers ns⟩

/-- If all words are numbers, `sort` returns the line of these. -/
theorem run_runSort_of_numbers {args : List String} {ns : List Decimal}
    (hns : args.map read? = ns.map some) (hpos : 0 < ns.length) {c : Context} {s : Store}
    (hfree : ∀ w ∈ args.head?, ¬ NamesFile s w) {r : Reply}
    (hr : ((runSort args).run c s).result = .ok r) :
    (runSort args).run c s = ⟨.ok (.text (sortedLine ns)), s, []⟩ := by
  cases args with
  | nil =>
      rw [List.map_eq_nil_iff.mp hns.symm] at hpos
      exact absurd hpos (Nat.lt_irrefl 0)
  | cons w ws =>
      rcases runSort_cases (hfree w rfl) hr with ⟨ds, hread, hrun⟩ | ⟨v, hread, -⟩
      · have hds : ns.map some = ds.map some := hns.symm.trans (readNumbers_eq_ok_iff.mp hread).1
        rw [List.map_injective_iff.mpr (Option.some_injective _) hds]
        exact hrun
      · obtain ⟨hmem, hnone⟩ := read?_eq_none_of_readNumbers hread
        have hsome : none ∈ ns.map some := by
          rw [← hns, ← hnone]
          exact List.mem_map_of_mem hmem
        simp at hsome

/-- If a word is no number, and those before it are, `sort` returns nothing and says which word it
is. -/
theorem run_runSort_of_invalid {before behind : List String} {w : String}
    (hbefore : ∀ v ∈ before, read? v ≠ none) (hw : read? w = none) {c : Context} {s : Store}
    (hfree : ∀ v ∈ (before ++ w :: behind).head?, ¬ NamesFile s v)
    {r : Reply} (hr : ((runSort (before ++ w :: behind)).run c s).result = .ok r) :
    (runSort (before ++ w :: behind)).run c s = ⟨.ok .nothing, s, [.err s!"Invalid number: {w}"]⟩ := by
  have hread : readNumbers c.host.room (before ++ w :: behind) = .error (.invalid w) ∨
      readNumbers c.host.room (before ++ w :: behind) = .error .noRoom :=
    readNumbers_append_cons hbefore hw
  obtain ⟨v, vs, hargs⟩ : ∃ v vs, before ++ w :: behind = v :: vs :=
    List.exists_cons_of_ne_nil (by simp)
  rw [hargs] at hfree hr hread ⊢
  rcases runSort_cases (hfree v rfl) hr with ⟨ds, hnumbers, -⟩ | ⟨u, hinvalid, hrun⟩
  · rw [hnumbers] at hread
    rcases hread with h | h
    · cases h
    · cases h
  · rw [hinvalid] at hread
    rcases hread with h | h
    · cases h
      exact hrun
    · cases h

/-- **The laws of sorting.** Whenever `sort` returns, given words of which none names a file, it
leaves the state as it is. If all words are numbers, it returns a line with these numbers in order;
it returns the same line for the words in any other order, and for the words of the line if the
first of them names no file. If a word is no number, it returns nothing and writes one diagnostic,
which names the first such word. -/
theorem runSort_sorts_numbers {args : List String} (hne : args ≠ []) {c : Context} {s : Store}
    (hfree : ∀ w ∈ args, ¬ NamesFile s w) {r : Reply}
    (hr : ((runSort args).run c s).result = .ok r) :
    ((runSort args).run c s).store = s ∧
    (∀ ns : List Decimal, args.map read? = ns.map some →
      ∃ line, r = .text line ∧ ((runSort args).run c s).events = [] ∧ HoldsInOrder ns line ∧
        (∀ args' : List String, args'.Perm args →
          ∀ r', ((runSort args').run c s).result = .ok r' → r' = .text line) ∧
        ((∀ w ∈ (Text.words line).head?, ¬ NamesFile s w) →
          ∀ r', ((runSort (Text.words line)).run c s).result = .ok r' → r' = .text line)) ∧
    (∀ before w behind, args = before ++ w :: behind → (∀ v ∈ before, read? v ≠ none) → read? w = none →
      r = .nothing ∧ ((runSort args).run c s).events = [.err s!"Invalid number: {w}"]) := by
  have hhead : ∀ vs : List String, vs.Perm args → ∀ w ∈ vs.head?, ¬ NamesFile s w :=
    fun vs hperm w hw => hfree w (hperm.mem_iff.mp (List.mem_of_mem_head? hw))
  refine ⟨?_, ?_, ?_⟩
  · obtain ⟨w, ws, rfl⟩ := List.exists_cons_of_ne_nil hne
    rcases runSort_cases (hhead _ (.refl _) w rfl) hr with ⟨ds, -, hrun⟩ | ⟨v, -, hrun⟩
    · rw [hrun]
    · rw [hrun]
  · intro ns hns
    have hpos : 0 < ns.length := by
      have hlength : args.length = ns.length := by simpa using congrArg List.length hns
      rw [← hlength]
      exact List.length_pos_iff.mpr hne
    have hrun := run_runSort_of_numbers hns hpos (hhead args (.refl args)) hr
    rw [hrun] at hr ⊢
    refine ⟨sortedLine ns, (Except.ok.inj hr).symm, rfl, holdsInOrder_sortedLine ns, ?_, ?_⟩
    · intro args' hperm r' hr'
      obtain ⟨ms, hms, hnumbers⟩ := exists_map_read?_of_perm hperm hns
      have hpos' : 0 < ms.length := hnumbers.length_eq ▸ hpos
      rw [run_runSort_of_numbers hms hpos' (hhead args' hperm) hr',
        sortedLine_eq_of_perm (hnumbers.map toRat)] at hr'
      exact (Except.ok.inj hr').symm
    · -- The words of the line are read as numbers that have the same values.
      intro hfirst r' hr'
      obtain ⟨es, hes, hvalues⟩ := exists_map_read?_words hns
      have hperm : (es.map toRat).Perm (ns.map toRat) := hvalues ▸ (perm_sortNumbers ns).map toRat
      have hpos' : 0 < es.length := by
        have hlength := hperm.length_eq
        rw [List.length_map, List.length_map] at hlength
        omega
      rw [run_runSort_of_numbers hes hpos' hfirst hr', sortedLine_eq_of_perm hperm] at hr'
      exact (Except.ok.inj hr').symm
  · rintro before w behind rfl hbefore hw
    have hrun := run_runSort_of_invalid hbefore hw (hhead _ (.refl _)) hr
    rw [hrun] at hr ⊢
    exact ⟨(Except.ok.inj hr).symm, rfl⟩

/-- A number that is given in two spellings stands twice in the line, and the line is the same
whichever of the spellings comes first. -/
theorem runSort_of_two_spellings :
    ∃ line, ((runSort ["10", "2.50", "-3", "0002.5"]).run
      ⟨Host.always (.finished 0 "" ""), none⟩
          ⟨⟨[]⟩, .empty, 10, .empty⟩).result = .ok (.text line) ∧
        line = "-3 2.5 2.5 10" ∧ HoldsInOrder [⟨10, 0⟩, ⟨250, -2⟩, ⟨-3, 0⟩, ⟨25, -1⟩] line ∧
        ∀ args' : List String, args'.Perm ["10", "2.50", "-3", "0002.5"] → ∀ r',
          ((runSort args').run ⟨Host.always (.finished 0 "" ""), none⟩
            ⟨⟨[]⟩, .empty, 10, .empty⟩).result = .ok r' → r' = .text line := by
  have hfree : ∀ w ∈ ["10", "2.50", "-3", "0002.5"], ¬ NamesFile ⟨⟨[]⟩, .empty, 10, .empty⟩ w := by
    unfold NamesFile
    decide +kernel
  have hread : readNumbers (Host.always (.finished 0 "" "")).room ["10", "2.50", "-3", "0002.5"] =
      .ok [⟨10, 0⟩, ⟨250, -2⟩, ⟨-3, 0⟩, ⟨25, -1⟩] := by
    decide +kernel
  have hline : sortedLine [⟨10, 0⟩, ⟨250, -2⟩, ⟨-3, 0⟩, ⟨25, -1⟩] = "-3 2.5 2.5 10" := by
    have hperm : [⟨10, 0⟩, ⟨250, -2⟩, ⟨-3, 0⟩, ⟨25, -1⟩].Perm
        [⟨-3, 0⟩, ⟨250, -2⟩, ⟨25, -1⟩, (⟨10, 0⟩ : Decimal)] := by
      decide
    rw [sortedLine_eq_of_perm (hperm.map toRat), sortedLine, sortNumbers_of_pairwise (by decide)]
    decide +kernel
  have hr : ((runSort ["10", "2.50", "-3", "0002.5"]).run
      ⟨Host.always (.finished 0 "" ""), none⟩
      ⟨⟨[]⟩, .empty, 10, .empty⟩).result = .ok (.text "-3 2.5 2.5 10") := by
    rw [run_runSort_of_isFile (by decide +kernel), hread, ← hline]
    rfl
  obtain ⟨-, hnumbers, -⟩ := runSort_sorts_numbers (by decide) hfree hr
  obtain ⟨line, heq, -, hholds, hperm, -⟩ := hnumbers _ (readNumbers_eq_ok_iff.mp hread).1
  cases heq
  exact ⟨_, hr, rfl, hholds, hperm⟩

end Command

end LineShell
