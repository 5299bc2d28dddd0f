import LineShell.Disk.Listing
import LineShell.Proofs.Disk.Shown

/-!
# What is found below a directory

If a path leads to a directory, then the path of a name in it leads to what stands under the name, if it is
not too long (`find_child`, `findItself_child`). Links that are followed on the way to the directory are
followed again and leave fewer to be followed (`walk_append`); but the last step needs none, unless it is
to a link.

**Main statement** (`isEntered_child`): which of the names are gone into. Only directories are; but it is
not found out of a path that is too long, nor of a link that leads to a name that is too long
(`find_of_link_to_long_name`).
-/

namespace LineShell

/-! ### The text of a path -/

namespace Path

/-- The text of a path that goes one name further. -/
theorem text_child (p : Path) (name : String) :
    (p.child name).text =
      p.root ++ if p.names = [] then name else "/".intercalate p.names ++ "/" ++ name := by
  have hne : (p.child name).names.isEmpty = false := by simp [child]
  rw [text, hne, Bool.and_false, if_neg Bool.false_ne_true]
  by_cases hnames : p.names = []
  · rw [if_pos hnames, child, hnames, List.nil_append, String.intercalate_singleton]
  · rw [if_neg hnames, child, String.intercalate_append_of_ne_nil hnames (List.cons_ne_nil _ _),
      String.intercalate_singleton]

/-- A character of a path that goes one name further is in the text of the path or in the name, unless it
is the slash between them. -/
theorem mem_text_child {p : Path} {name : String} {c : Char} (h : c ∈ (p.child name).text.toList) :
    c ∈ p.text.toList ∨ c = '/' ∨ c ∈ name.toList := by
  rw [text_child, String.toList_append, List.mem_append] at h
  by_cases hnames : p.names = []
  · rw [if_pos hnames] at h
    rcases h with hroot | hname
    · have htext : p.text = p.root := by
        have hne : p.root.isEmpty = false := by
          rw [← Bool.not_eq_true, String.isEmpty_iff]
          rintro hempty
          rw [hempty] at hroot
          simp at hroot
        rw [text, hne, Bool.false_and, if_neg Bool.false_ne_true, hnames, String.intercalate_nil,
          String.append_empty]
      exact .inl (htext ▸ hroot)
    · exact .inr (.inr hname)
  · have htext : p.text = p.root ++ "/".intercalate p.names := by
      have hne : p.names.isEmpty = false := by simpa using hnames
      rw [text, hne, Bool.and_false, if_neg Bool.false_ne_true]
    rw [if_neg hnames] at h
    rw [htext]
    simp only [String.toList_append, List.mem_append] at h ⊢
    rcases h with hroot | (hbody | hslash) | hname
    · exact .inl (.inl hroot)
    · exact .inl (.inr hbody)
    · exact .inr (.inl (by simpa using hslash))
    · exact .inr (.inr hname)

end Path

namespace Disk

variable {d : Disk} {p : Path} {es : Entries} {name : String} {node : Node}

/-- What is checked of the text of a name below a path is its length. -/
theorem checkText_child (hp : checkText p.text = .ok ()) (hname : '\x00' ∉ name.toList) :
    checkText (p.child name).text =
      if (p.child name).text.utf8ByteSize ≤ maxPathBytes then .ok () else .error .nameTooLong := by
  have hfree : '\x00' ∉ p.text.toList := by
    intro h
    rw [checkText, if_pos (List.contains_iff_mem.mpr h)] at hp
    cases hp
  have hchild : ¬ (p.child name).text.toList.contains '\x00' = true := by
    rw [List.contains_iff_mem]
    intro h
    rcases Path.mem_text_child h with h | h | h
    · exact hfree h
    · cases h
    · exact hname h
  rw [checkText, if_neg hchild]
  by_cases hlong : (p.child name).text.utf8ByteSize ≤ maxPathBytes
  · rw [if_neg (Nat.not_lt.mpr hlong), if_pos hlong]
  · rw [if_pos (Nat.lt_of_not_le hlong), if_neg hlong]

/-! ### The way to a name below a directory -/

/-- A way with more steps behind it is that way, and then the steps, if this is so of the ways from
links. -/
theorem walkWith_append {followLast : Bool} {rest : List String} (hrest : rest ≠ [])
    {atLink atLink' : Way}
    (hend : ∀ gone, ∃ k, walkWith d followLast atLink' gone rest = walk d followLast k gone rest)
    (hlink : ∀ {start steps gone'}, atLink start steps = .ok gone' →
      ∃ k, atLink' start (steps ++ rest) = walk d followLast k gone' rest)
    {gone gone' steps : List String} (h : walkWith d true atLink gone steps = .ok gone') :
    ∃ k, walkWith d followLast atLink' gone (steps ++ rest) = walk d followLast k gone' rest := by
  induction steps generalizing gone with
  | nil =>
      rw [walkWith] at h
      obtain rfl := Except.ok.inj h
      exact hend _
  | cons n ns ih =>
      have hmore : (ns ++ rest).isEmpty = false := by simp [hrest]
      rw [walkWith] at h
      rw [List.cons_append, walkWith]
      cases hgone : d.nodeAt gone.reverse with
      | none => rw [hgone] at h; cases h
      | some here =>
          cases here with
          | directory es =>
              simp only [hgone, hmore, Bool.false_and, Bool.false_eq_true, if_false, Bool.not_true,
                Bool.and_false] at h ⊢
              by_cases hdot : n = "."
              · rw [if_pos hdot] at h ⊢
                exact ih h
              by_cases hdots : n = ".."
              · rw [if_neg hdot, if_pos hdots] at h ⊢
                exact ih h
              by_cases hlong : maxNameBytes < n.utf8ByteSize
              · rw [if_neg hdot, if_neg hdots, if_pos hlong] at h
                cases h
              rw [if_neg hdot, if_neg hdots, if_neg hlong] at h ⊢
              cases hentry : es.lookup n with
              | none =>
                  -- nothing is there to go on from, whether the name was the last one or not
                  simp only [hentry] at h ⊢
                  by_cases hns : ns.isEmpty = true
                  · rw [if_pos hns] at h
                    obtain rfl := Except.ok.inj h
                    have hnone : d.nodeAt (n :: gone).reverse = none := by
                      rw [List.reverse_cons, nodeAt, nodeBelow_append_singleton hgone, hentry]
                    obtain ⟨r, rs, rfl⟩ := List.exists_cons_of_ne_nil hrest
                    exact ⟨0, by rw [walk, walkWith, hnone]⟩
                  · rw [if_neg hns] at h
                    cases h
              | some node =>
                  cases node with
                  | link target =>
                      simp only [hentry] at h ⊢
                      rw [← List.append_assoc]
                      exact hlink h
                  | _ =>
                      simp only [hentry] at h ⊢
                      exact ih h
          | _ => simp only [hgone] at h; cases h

/-- **A way with more steps behind it** is that way, and then the steps, with links left to follow. -/
theorem walk_append (followLast : Bool) {rest : List String} (hrest : rest ≠ []) {k : Nat}
    {gone gone' steps : List String} (h : walk d true k gone steps = .ok gone') :
    ∃ k', walk d followLast k gone (steps ++ rest) = walk d followLast k' gone' rest := by
  induction k generalizing gone gone' steps with
  | zero => exact walkWith_append hrest (fun _ => ⟨0, rfl⟩) (fun h => by cases h) h
  | succ k ih => exact walkWith_append hrest (fun _ => ⟨k + 1, rfl⟩) ih h

/-- The way through a name that is there, which is not followed as a link. -/
theorem walk_of_entry {followLast : Bool} {k : Nat} {gone : List String}
    (hgone : d.nodeAt gone.reverse = some (.directory es)) (hname : IsName name)
    (hlong : name.utf8ByteSize ≤ maxNameBytes) (hentry : es.lookup name = some node)
    (hstay : followLast = true → ∀ target, node ≠ .link target) :
    walk d followLast k gone [name] = .ok (name :: gone) := by
  have hwith (atLink : Way) : walkWith d followLast atLink gone [name] = .ok (name :: gone) := by
    rw [walkWith, hgone]
    simp only [if_neg hname.ne_dot, if_neg hname.ne_dots, if_neg (Nat.not_lt.mpr hlong), hentry]
    cases node with
    | link target =>
        have hlast : followLast = false :=
          Bool.eq_false_iff.mpr fun htrue => hstay htrue target rfl
        rw [hlast]
        rfl
    | _ => rw [walkWith]
  cases k <;> exact hwith _

/-- The way through the name of a link goes on with its target, if links are followed. -/
theorem walkWith_of_link {atLink : Way} {gone : List String} {target : String}
    (hgone : d.nodeAt gone.reverse = some (.directory es)) (hname : IsName name)
    (hlong : name.utf8ByteSize ≤ maxNameBytes) (hentry : es.lookup name = some (.link target)) :
    walkWith d true atLink gone [name] = atLink (linkStart target gone) (Path.stepsOf target) := by
  rw [walkWith, hgone]
  simp only [if_neg hname.ne_dot, if_neg hname.ne_dots, if_neg (Nat.not_lt.mpr hlong), hentry]
  rw [List.append_nil]
  rfl

/-- What steps lead to is at the place to which they lead. -/
theorem follow_eq_ok_iff {followLast absolute : Bool} {steps : List String} :
    d.follow followLast absolute steps = .ok node ↔
      ∃ gone, walk d followLast maxLinks (if absolute then [] else d.working.reverse) steps = .ok gone ∧
        d.nodeAt gone.reverse = some node := by
  rw [follow, placeOf]
  cases hwalk : walk d followLast maxLinks (if absolute then [] else d.working.reverse) steps with
  | error f => simp [Except.map, bind, Except.bind]
  | ok gone =>
      simp only [Except.map, bind, Except.bind, Except.ok.injEq, exists_eq_left']
      cases hnode : d.nodeAt gone.reverse with
      | none => simp [throw, throwThe, MonadExceptOf.throw]
      | some n => simp [pure, Except.pure]

/-- Steps to a directory and then a name lead to what stands under the name. -/
theorem follow_append_singleton {followLast absolute : Bool} {steps : List String}
    (h : d.follow true absolute steps = .ok (.directory es)) (hname : IsName name)
    (hlong : name.utf8ByteSize ≤ maxNameBytes) (hentry : es.lookup name = some node)
    (hstay : followLast = true → ∀ target, node ≠ .link target) :
    d.follow followLast absolute (steps ++ [name]) = .ok node := by
  obtain ⟨gone, hwalk, hgone⟩ := follow_eq_ok_iff.mp h
  obtain ⟨k, happend⟩ := walk_append followLast (List.cons_ne_nil name []) hwalk
  refine follow_eq_ok_iff.mpr ⟨name :: gone, ?_, ?_⟩
  · rw [happend, walk_of_entry hgone hname hlong hentry hstay]
  · rw [List.reverse_cons, nodeAt, nodeBelow_append_singleton hgone, hentry]

/-- What is found at a path is what its names lead to, if its text can be handed to the system. -/
theorem find_eq_ok_iff :
    d.find p = .ok node ↔
      checkText p.text = .ok () ∧ d.follow true (!p.isRelative) p.names = .ok node := by
  rw [find]
  cases hcheck : checkText p.text <;> simp [bind, Except.bind]

/-! ### A name below a path -/

section Child

variable (hp : d.find p = .ok (.directory es)) (hes : Node.IsSound (.directory es))
  (hmem : (name, node) ∈ es)

include hp hes hmem

/-- The names of a path and a name of the directory there lead to what stands under the name. -/
theorem follow_child (followLast : Bool) (hstay : followLast = true → ∀ target, node ≠ .link target) :
    d.follow followLast (!(p.child name).isRelative) (p.child name).names = .ok node := by
  have hname := hes.isName hmem
  exact follow_append_singleton (find_eq_ok_iff.mp hp).2 hname.1 hname.2 (hes.lookup_of_mem hmem) hstay

/-- Nothing is found of a name whose path is too long, whether links are followed or not. -/
theorem checkText_child_of_mem :
    checkText (p.child name).text =
      if (p.child name).text.utf8ByteSize ≤ maxPathBytes then .ok () else .error .nameTooLong :=
  checkText_child (find_eq_ok_iff.mp hp).1 (hes.isName hmem).1.null_not_mem

/-- **What is found at the path of a name** in a directory, unless it is a link. -/
theorem find_child (hshort : (p.child name).text.utf8ByteSize ≤ maxPathBytes)
    (hstay : ∀ target, node ≠ .link target) : d.find (p.child name) = .ok node := by
  rw [find_eq_ok_iff, checkText_child_of_mem hp hes hmem, if_pos hshort]
  exact ⟨rfl, follow_child hp hes hmem true fun _ => hstay⟩

/-- **What is at the path of a name itself**, be it a link or not. -/
theorem findItself_child (hshort : (p.child name).text.utf8ByteSize ≤ maxPathBytes) :
    d.findItself (p.child name) = .ok node := by
  have hfollow := follow_child hp hes hmem false nofun
  rw [findItself, checkText_child_of_mem hp hes hmem, if_pos hshort]
  exact hfollow

/-- Nothing can be found at a path that is too long. -/
theorem find_child_of_long (hlong : ¬ (p.child name).text.utf8ByteSize ≤ maxPathBytes) :
    d.find (p.child name) = .error .nameTooLong := by
  rw [find, checkText_child_of_mem hp hes hmem, if_neg hlong]
  rfl

end Child

/-- The steps of a name are the name alone. -/
theorem stepsOf_of_isName {w : String} (hw : IsName w) : Path.stepsOf w = [w] := by
  have hne : w.toList ≠ [] := by simpa using hw.ne_empty
  have hlast : w.toList.getLast? ≠ some '/' := fun h => hw.slash_not_mem (List.mem_of_getLast? h)
  rw [Path.stepsOf, Chars.pieces_eq_singleton (beq_slash_of_isName hw)]
  simp [hne, hlast]

/-- **A link to a name that is too long** leads to no place of which it could be said that it is missing. -/
theorem find_of_link_to_long_name {target : String}
    (hworking : d.nodeAt d.working = some (.directory es)) (hes : Node.IsSound (.directory es))
    (hmem : (name, .link target) ∈ es) (htarget : IsName target)
    (hlong : maxNameBytes < target.utf8ByteSize) :
    d.find ⟨"", [name]⟩ = .error .nameTooLong := by
  obtain ⟨hname, hshort⟩ := hes.isName hmem
  have hgone : d.nodeAt d.working.reverse.reverse = some (.directory es) := by
    rw [List.reverse_reverse, hworking]
  have hfree : ∀ n, es.lookup target = some n → ∃ inner, n = .directory inner := by
    intro n hn
    obtain ⟨before, after, heq, -⟩ := List.lookup_eq_some_iff.mp hn
    have hentry : (target, n) ∈ es := by simp [heq]
    exact absurd (hes.isName hentry).2 (Nat.not_le.mpr hlong)
  have hstart : linkStart target d.working.reverse = d.working.reverse := by
    have hrelative : ¬ Path.isAbsoluteText target = true := by
      rw [Path.isAbsoluteText, beq_iff_eq]
      exact fun h => htarget.slash_not_mem (List.mem_of_head? h)
    rw [linkStart, if_neg hrelative]
  have hwalk : walk d true maxLinks d.working.reverse [name] = .error .nameTooLong := by
    rw [maxLinks, walk, walkWith_of_link hgone hname hshort (hes.lookup_of_mem hmem), hstart,
      stepsOf_of_isName htarget, walk, walkWith_of_isName htarget hgone hfree,
      if_neg (Nat.not_le.mpr hlong)]
  have htext : (⟨"", [name]⟩ : Path).text = name := by
    rw [← ofString_of_isName hname, text_ofString_of_isName hname]
  have hcheck : checkText name = .ok () := by
    have hpath : name.utf8ByteSize ≤ maxPathBytes := Nat.le_trans hshort (by decide)
    rw [checkText, if_neg (by simpa using hname.null_not_mem), if_neg (Nat.not_lt.mpr hpath)]
  have hrelative : ¬ (!(⟨"", [name]⟩ : Path).isRelative) = true := by simp [Path.isRelative]
  rw [find, htext, hcheck, follow, placeOf, if_neg hrelative, hwalk]
  rfl

end Disk

/-! ### Which names are gone into -/

/-- Whether a node is a directory. -/
def Node.isDirectory : Node → Bool
  | .directory _ => true
  | _ => false

namespace Listing

open Disk

variable {d : Disk} {p : Path} {es : Entries} {name : String} {node : Node}

/-- Whether it can be found out at a path if what stands there is to be gone into. -/
structure IsClear (d : Disk) (p : Path) (node : Node) : Prop where
  /-- The path is not too long to be asked for. -/
  short : p.text.utf8ByteSize ≤ maxPathBytes
  /-- Nor is a name on the way that a link leads. -/
  leads : ∀ target, node = .link target → d.find p ≠ .error .nameTooLong

variable (hp : d.find p = .ok (.directory es)) (hes : Node.IsSound (.directory es))
  (hmem : (name, node) ∈ es)

include hp hes hmem

/-- **A name is gone into if it is that of a directory**, where that can be found out. -/
theorem isEntered_child (h : IsClear d (p.child name) node) :
    isEntered d (p.child name) = .ok node.isDirectory := by
  by_cases hlink : ∃ target, node = .link target
  · obtain ⟨target, rfl⟩ := hlink
    have hleads := h.leads target rfl
    have hitself := findItself_child hp hes hmem h.short
    rw [isEntered, isDirectory, test]
    cases hfind : d.find (p.child name) with
    | error f =>
        have habsent : f.isAbsence = true := by
          cases f with
          | nameTooLong => exact absurd hfind hleads
          | _ => rfl
        simp only [habsent, if_true]
        rfl
    | ok n =>
        -- the link may lead to a directory; it is not gone into for all that
        cases n <;> simp [isLink, hitself, Node.isDirectory]
  · have hfind := find_child hp hes hmem h.short (not_exists.mp hlink)
    have hitself := findItself_child hp hes hmem h.short
    rw [isEntered, isDirectory, test, hfind]
    cases node with
    | link target => exact absurd ⟨target, rfl⟩ hlink
    | directory inner => simp [isLink, hitself, Node.isDirectory]
    | _ => rfl

/-- Where it cannot be found out whether a name is to be gone into, a name is too long. -/
theorem isEntered_child_of_not (h : ¬ IsClear d (p.child name) node) :
    isEntered d (p.child name) = .error (.path (p.child name) .nameTooLong) := by
  have hfind : d.find (p.child name) = .error .nameTooLong := by
    by_cases hshort : (p.child name).text.utf8ByteSize ≤ maxPathBytes
    · by_contra hne
      exact h ⟨hshort, fun _ _ => hne⟩
    · exact find_child_of_long hp hes hmem hshort
  rw [isEntered, isDirectory, test, hfind]
  rfl

end Listing

end LineShell
