import LineShell.Script.Regex
import LineShell.Script.Tool.Lines

/-!
# Copying texts

Tools that write texts again: as they are, with what cannot be seen made visible, with numbers in front
of the lines, to several places, or from the end to the beginning.

Main statement: `flatten_records`, by which the records of a text hold all of it.
-/

namespace LineShell

namespace Script

namespace Tool

/-! ### Forwards -/

/-- An octet that can be seen. -/
def visible (c : Char) : Octets :=
  if c.toNat < 32 then ['^', Char.ofNat (c.toNat + 64)]
  else if c.toNat < 127 then [c]
  else if c.toNat = 127 then ['^', '?']
  else if c.toNat < 160 then ['M', '-', '^', Char.ofNat (c.toNat - 64)]
  else if c.toNat < 255 then ['M', '-', Char.ofNat (c.toNat - 128)]
  else ['M', '-', '^', '?']

/-- Lines without empty ones behind empty ones. -/
def squeeze : List Octets → List Octets
  | a :: b :: ls =>
      if a = ['\n'] && b = ['\n'] then squeeze (b :: ls) else a :: squeeze (b :: ls)
  | ls => ls

/-- Lines with their numbers in front, from a number on; empty ones may have none. -/
def numbered (skipEmpty : Bool) : Nat → List Octets → List Octets
  | _, [] => []
  | n, l :: ls =>
      if skipEmpty && l = ['\n'] then l :: numbered skipEmpty n ls
      else (aligned 6 n ++ '\t' :: l) :: numbered skipEmpty (n + 1) ls

/-- A line with what cannot be seen made visible. -/
def shownLine (ends tabs others : Bool) (l : Octets) : Octets :=
  let l := if ends && !others && ['\r', '\n'].isSuffixOf l then
      l.take (l.length - 2) ++ ['^', 'M', '\n']
    else l
  l.flatMap fun c =>
    if c = '\n' then (if ends then ['$', '\n'] else ['\n'])
    else if c = '\t' then (if tabs then ['^', 'I'] else ['\t'])
    else if others then visible c else [c]

/-- Copying files to the output. -/
def cat : Tool := fun c => do
  let a ← arguments ⟨"benstuvAET", [("number-nonblank", 'b'), ("number", 'n'),
    ("squeeze-blank", 's'), ("show-nonprinting", 'v'), ("show-ends", 'E'), ("show-tabs", 'T'),
    ("show-all", 'A')], true, 1⟩ c
  let (parts, isWhole) ← readAll c a.operands
  let has (cs : String) : Bool := cs.toList.any a.has
  let ls := keptLines (parts.flatMap Prod.snd)
  let ls := if a.has 's' then squeeze ls else ls
  let ls := ls.map (shownLine (has "EAe") (has "TAt") (has "vAet"))
  let ls := if a.has 'b' then numberedText a.options ls
    else if a.has 'n' then numbered false 1 ls else ls
  write ls.flatten
  return if isWhole then 0 else 1
where
  /-- The lines with numbers in front of those that are not empty. -/
  numberedText (options : List (Char × Octets)) (ls : List Octets) : List Octets :=
    if options.any (fun o => "EAe".toList.contains o.1) then
      (numbered true 1 (ls.map fun l => if l = ['$', '\n'] then ['\n'] else l)).map fun l =>
        if l = ['\n'] then ['$', '\n'] else l
    else numbered true 1 ls

/-- Copying the input to the output and to files. -/
def tee : Tool := fun c => do
  let a ← arguments ⟨"aipε::", [("append", 'a'), ("ignore-interrupts", 'i'), ("output-error", 'ε')],
    true, 1⟩ c
  let cs ← takeInput
  write cs
  forEach a.operands fun p => do
    let old ← if a.has 'a' then readSource p else pure (.ok [])
    match ← writeFile p ((old.toOption.getD []) ++ cs) with
    | .ok _ => return true
    | .error e => do
        sayOf c p e
        return false

/-! ### Backwards -/

/-- The length of the separator at the beginning of a text, if there is one. -/
abbrev Separator := Octets → Option Nat

/-- A text as a separator; an empty one stands for the null character. -/
def separatorOf (text : Octets) : Separator :=
  let text := if text.isEmpty then ['\x00'] else text
  fun cs => if text.isPrefixOf cs then some text.length else none

/-- A regular expression as a separator. -/
def separatorFitting (r : Regex) : Separator :=
  fun cs => (r.fitsAtStart? cs).map (·.fitted.length)

/-- The last place before the end of a text at which a separator stands, with its length. The number is
that of the octets behind which it is looked for. -/
def lastSeparator? (p : Separator) (cs : Octets) : Nat → Option (Nat × Nat)
  | 0 => none
  | n + 1 => match p (cs.drop n) with
    | some k => some (n, k)
    | none => lastSeparator? p cs n

/-- The records of a text from the last to the first; a separator belongs to the record before it, or
to the one behind it. The number bounds the records. -/
def recordsFrom (p : Separator) (before : Bool) : Nat → Octets → Octets → List Octets
  | 0, cs, behind => [cs ++ behind]
  | n + 1, cs, behind => match lastSeparator? p cs cs.length with
    | none => [cs ++ behind]
    | some (place, k) =>
        let cut := if before then place else place + k
        (cs.drop cut ++ behind) :: recordsFrom p before n (cs.take place)
          ((cs.take cut).drop place)

/-- The records of a text from the last to the first. -/
def records (p : Separator) (before : Bool) (cs : Octets) : List Octets :=
  recordsFrom p before (cs.length + 1) cs []

/-- What is up to one place and what is from there up to another make what is up to the other. -/
theorem take_append_drop_take {cs : Octets} {m n : Nat} (h : m ≤ n) :
    cs.take m ++ (cs.take n).drop m = cs.take n := by
  have hm : (cs.take n).take m = cs.take m := by rw [List.take_take, Nat.min_eq_left h]
  rw [← hm, List.take_append_drop]

/-- The records of a text, read from the last one on, are all of it. -/
theorem flatten_recordsFrom (p : Separator) (before : Bool) :
    ∀ (n : Nat) (cs behind : Octets),
      (recordsFrom p before n cs behind).reverse.flatten = cs ++ behind
  | 0, cs, behind => by simp [recordsFrom]
  | n + 1, cs, behind => by
      unfold recordsFrom
      split
      · simp
      · next place k _ =>
        have hle : place ≤ (if before = true then place else place + k) := by
          split
          · exact Nat.le_refl _
          · exact Nat.le_add_right _ _
        simp only [List.reverse_cons, List.flatten_append, flatten_recordsFrom p before n,
          List.flatten_cons, List.flatten_nil, List.append_nil]
        rw [take_append_drop_take hle, ← List.append_assoc, List.take_append_drop]

/-- The records of a text hold all of it. -/
theorem flatten_records (p : Separator) (before : Bool) (cs : Octets) :
    (records p before cs).reverse.flatten = cs := by
  simp [records, flatten_recordsFrom]

/-- Writing the records of files from the last to the first. -/
def tac : Tool := fun c => do
  let a ← arguments ⟨"brs:", [("before", 'b'), ("regex", 'r'), ("separator", 's')], true, 1⟩ c
  let text := (a.value? 's').getD ['\n']
  let p ← if a.has 'r' then
      if text.isEmpty then failWith c 1 (octetsOf "separator cannot be empty")
      else match Regex.read (.basic false) text with
        | .ok r => pure (separatorFitting r)
        | .error e => failWith c 1 (octetsOf e.message)
    else pure (separatorOf text)
  forEach (sourcesOf a.operands) fun n => do
    match ← readSource n with
    | .ok cs => do
        write (records p (a.has 'b') cs).flatten
        return true
    | .error e => do
        if e = "Is a directory" then
          say c (quoteIfNeeded n ++ octetsOf ": read error: Invalid argument")
        else
          say c (octetsOf "failed to open " ++ quoteAlways n ++ octetsOf " for reading: " ++
            octetsOf e)
        return false

end Tool

end Script

end LineShell
