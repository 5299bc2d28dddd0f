import LineShell.Script.Tool.Lines

/-!
# Octets as numbers

A tool that writes the octets of files as characters or numbers, a block of sixteen on a line, with
the number of the first of them in front. Blocks that are equal to the one before are left out.

Main statement: `flatten_blocks`, by which the blocks hold all octets in order.
-/

namespace LineShell

namespace Script

namespace Tool

/-! ### Forms -/

/-- How octets are written. -/
inductive DumpKind where
  /-- By the names of characters of ASCII. -/
  | names
  /-- As characters. -/
  | characters
  /-- As numbers with a radix, perhaps with signs. -/
  | numbers (radix : Nat) (signed : Bool)
deriving DecidableEq, Repr

/-- A form in which a block is written. -/
structure DumpForm where
  /-- How octets are written. -/
  kind : DumpKind
  /-- How many octets make an item. -/
  size : Nat
  /-- Whether the block is written as characters behind the items. -/
  trailer : Bool
deriving DecidableEq, Repr

/-- The names of the characters that cannot be seen. -/
def controlNames : List String :=
  ["nul", "soh", "stx", "etx", "eot", "enq", "ack", "bel", "bs", "ht", "nl", "vt", "ff", "cr", "so",
    "si", "dle", "dc1", "dc2", "dc3", "dc4", "nak", "syn", "etb", "can", "em", "sub", "esc", "fs",
    "gs", "rs", "us", "sp"]

/-- The name of a character; the highest bit of an octet does not count. -/
def characterName (c : Char) : Octets :=
  let n := c.toNat % 128
  match controlNames[n]? with
  | some s => s.toList
  | none => if n = 127 then "del".toList else [Char.ofNat n]

/-- A number with so many digits of a radix. -/
def digitsWithin (radix width n : Nat) : Octets :=
  let ds := Nat.toDigits radix n
  List.replicate (width - ds.length) '0' ++ ds

/-- A character as it is written. -/
def characterText (c : Char) : Octets :=
  if c = '\x00' then ['\\', '0']
  else if isPrintable c then [c]
  else if (escapeLetters.lookup c).isSome then escapeOf c
  else octalOf c

/-- The number that octets make, the lowest first. -/
def littleEndian (cs : Octets) : Nat := cs.foldr (fun c n => c.toNat + 256 * n) 0

namespace DumpForm

/-- How wide an item is at the most. -/
def width (f : DumpForm) : Nat :=
  match f.kind with
  | .names => 3
  | .characters => 3
  | .numbers radix signed =>
      if radix = 16 then 2 * f.size
      else if radix = 8 then (8 * f.size + 2) / 3
      else (Nat.toDigits 10 (256 ^ f.size - 1)).length + (if signed && f.size < 8 then 1 else 0)

/-- An item as it is written. -/
def itemText (f : DumpForm) (cs : Octets) : Octets :=
  match f.kind with
  | .names => cs.flatMap characterName
  | .characters => cs.flatMap characterText
  | .numbers radix signed =>
      let n := littleEndian cs
      if radix ≠ 10 then digitsWithin radix f.width n
      else if signed && 256 ^ f.size ≤ 2 * n then '-' :: Numeral.digits (256 ^ f.size - n)
      else Numeral.digits n

end DumpForm

/-! ### Blocks -/

/-- Octets in blocks of a size. The number bounds the blocks. -/
def blocksFrom (size : Nat) : Nat → Octets → List Octets
  | 0, _ => []
  | n + 1, cs => if cs.isEmpty then [] else cs.take size :: blocksFrom size n (cs.drop size)

/-- Octets in blocks of a size. -/
def blocks (size : Nat) (cs : Octets) : List Octets := blocksFrom size cs.length cs

/-- Enough blocks hold all octets in order. -/
theorem flatten_blocksFrom {size : Nat} (h : 0 < size) :
    ∀ {n : Nat} {cs : Octets}, cs.length ≤ n → (blocksFrom size n cs).flatten = cs
  | 0, cs, hn => by
      have : cs = [] := List.length_eq_zero_iff.mp (Nat.le_zero.mp hn)
      simp [this, blocksFrom]
  | n + 1, cs, hn => by
      unfold blocksFrom
      split
      · next he => simp [List.isEmpty_iff.mp he]
      · have hd : (cs.drop size).length ≤ n := by
          rw [List.length_drop]
          omega
        rw [List.flatten_cons, flatten_blocksFrom h hd, List.take_append_drop]

/-- The blocks hold all octets in order. -/
theorem flatten_blocks {size : Nat} (h : 0 < size) (cs : Octets) :
    (blocks size cs).flatten = cs := flatten_blocksFrom h (Nat.le_refl _)

/-- How a dump is written. -/
structure DumpLayout where
  /-- The radix of the numbers in front, if there are any. -/
  address : Option Nat
  /-- The forms, one line for each. -/
  forms : List DumpForm
  /-- How many octets are in a block. -/
  size : Nat
  /-- Whether blocks that are equal to the one before are written. -/
  repeats : Bool

namespace DumpLayout

/-- The number in front of a block. -/
def addressText (l : DumpLayout) (offset : Nat) : Octets :=
  match l.address with
  | some 16 => digitsWithin 16 6 offset
  | some radix => digitsWithin radix 7 offset
  | none => []

/-- How wide a block is at the most. -/
def blockWidth (l : DumpLayout) : Nat :=
  (l.forms.map fun f => (f.width + 1) * (l.size / f.size)).foldl max 0

/-- The items of a block, given how many blanks are to be spread before those that are left, how many
of them there would be, and how many there are in a whole block. -/
def itemsText (f : DumpForm) (pad count : Nat) : Nat → Nat → List Octets → Octets
  | _, _, [] => []
  | left, i, x :: xs =>
      let next := pad * (i - 1) / count
      let text := f.itemText x
      List.replicate (left - next + f.width - text.length) ' ' ++ text ++
        itemsText f pad count next (i - 1) xs

/-- A block in one form. -/
def formText (l : DumpLayout) (f : DumpForm) (block : Octets) : Octets :=
  let count := l.size / f.size
  let pad := l.blockWidth - f.width * count
  let missing := (f.size - block.length % f.size) % f.size
  let items := blocks f.size (block ++ List.replicate missing '\x00')
  let blank := count - items.length
  let shown := block.map fun c => if isPrintable c then c else '.'
  itemsText f pad count pad count items ++
    (if f.trailer then
      List.replicate (blank * f.width + pad * blank / count) ' ' ++ "  >".toList ++ shown ++ ['<']
    else [])

/-- The lines of a block that begins with the octet of a number. -/
def blockText (l : DumpLayout) (offset : Nat) (block : Octets) : Octets :=
  let front := l.addressText offset
  let texts := l.forms.map fun f => l.formText f block
  unlines (texts.mapIdx fun i t =>
    (if i = 0 then front else List.replicate front.length ' ') ++ t)

/-- The lines of blocks behind one that has been read, whose repetitions have perhaps been marked. -/
def blocksText (l : DumpLayout) : Nat → Option Octets → Bool → List Octets → Octets
  | _, _, _, [] => []
  | offset, before, marked, b :: bs =>
      if !l.repeats && before == some b && b.length == l.size then
        (if marked then [] else ['*', '\n']) ++ blocksText l (offset + b.length) before true bs
      else l.blockText offset b ++ blocksText l (offset + b.length) (some b) false bs

/-- Octets behind so many others, as they are written. -/
def text (l : DumpLayout) (offset : Nat) (cs : Octets) : Octets :=
  l.blocksText offset none false (blocks l.size cs) ++
    (if l.address.isSome then l.addressText (offset + cs.length) ++ ['\n'] else [])

end DumpLayout

/-! ### The tool -/

/-- The size behind the letter of a kind, if there is one. -/
def dumpSize : Octets → Nat × Octets
  | 'C' :: cs => (1, cs)
  | 'S' :: cs => (2, cs)
  | 'I' :: cs => (4, cs)
  | 'L' :: cs => (8, cs)
  | cs =>
      let ds := cs.takeWhile isAsciiDigit
      (if ds.isEmpty then 4 else ofDigits ds, cs.drop ds.length)

/-- The radix that a letter stands for. -/
def dumpRadix? : Char → Option (Nat × Bool)
  | 'd' => some (10, true)
  | 'o' => some (8, false)
  | 'u' => some (10, false)
  | 'x' => some (16, false)
  | _ => none

/-- The forms that a text asks for, or the character that asks for none. The number bounds them. -/
def dumpForms : Nat → Octets → Except Char (List DumpForm)
  | 0, _ => .ok []
  | _, [] => .ok []
  | n + 1, c :: cs => do
      let (kind, size, rest) ← match c, dumpRadix? c with
        | 'a', _ => pure (DumpKind.names, 1, cs)
        | 'c', _ => pure (DumpKind.characters, 1, cs)
        | _, some (radix, signed) =>
            let (size, rest) := dumpSize cs
            if [1, 2, 4, 8].contains size then pure (DumpKind.numbers radix signed, size, rest)
            else throw c
        | c, none => throw c
      let trailer := rest.head? = some 'z'
      return ⟨kind, size, trailer⟩ :: (← dumpForms n (if trailer then rest.drop 1 else rest))

/-- The form that an option of one letter stands for. -/
def dumpOption? : Char → Option DumpForm
  | 'a' => some ⟨.names, 1, false⟩
  | 'b' => some ⟨.numbers 8 false, 1, false⟩
  | 'c' => some ⟨.characters, 1, false⟩
  | 'd' => some ⟨.numbers 10 false, 2, false⟩
  | 'i' => some ⟨.numbers 10 true, 4, false⟩
  | 'l' => some ⟨.numbers 10 true, 8, false⟩
  | 'o' => some ⟨.numbers 8 false, 2, false⟩
  | 's' => some ⟨.numbers 10 true, 2, false⟩
  | 'x' => some ⟨.numbers 16 false, 2, false⟩
  | _ => none

/-- The forms that options ask for. -/
def askedForms (c : Call) : List (Char × Octets) → Task (List DumpForm)
  | [] => return []
  | (o, v) :: rest => do
      let forms ← if o = 't' then match dumpForms v.length v with
          | .ok forms => pure forms
          | .error x => failWith c 1 (octetsOf "invalid character '" ++ [x] ++
              octetsOf "' in type string " ++ quoteText v)
        else pure (dumpOption? o).toList
      return forms ++ (← askedForms c rest)

/-- The radix of the numbers in front. -/
def askedAddress (c : Call) : Option Octets → Task (Option Nat)
  | none => return some 8
  | some ['o'] => return some 8
  | some ['d'] => return some 10
  | some ['x'] => return some 16
  | some ['n'] => return none
  | some v => do
      let x := v.headD ' '
      failWith c 1 (octetsOf "invalid output address radix '" ++ [x] ++
        octetsOf "'; it must be one character from [doxn]")

/-- Writing octets as characters or numbers. -/
def od : Tool := fun c => do
  let a ← arguments ⟨"A:aBbcDdeFfHhIij:LlN:OoS::st:vw::Xxτε:", [("skip-bytes", 'j'),
    ("address-radix", 'A'), ("read-bytes", 'N'), ("format", 't'), ("output-duplicates", 'v'),
    ("strings", 'S'), ("traditional", 'τ'), ("width", 'w'), ("endian", 'ε')], true, 1⟩ c
  let address ← askedAddress c (a.value? 'A')
  let forms ← askedForms c a.options
  let (parts, all) ← readAll c a.operands
  if parts.isEmpty then return 1
  else
    let skipped := ((a.value? 'j').bind number?).getD 0
    let size := ((a.value? 'w').bind number?).getD 16
    let cs := (parts.flatMap Prod.snd).drop skipped
    let taken := match (a.value? 'N').bind number? with
      | some n => cs.take n
      | none => cs
    let forms := if forms.isEmpty then [⟨.numbers 8 false, 2, false⟩] else forms
    let layout : DumpLayout := ⟨address, forms, if size = 0 then 16 else size, a.has 'v'⟩
    write (layout.text skipped taken)
    return if all then 0 else 1

end Tool

end Script

end LineShell
