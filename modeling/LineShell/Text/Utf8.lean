/-!
# Text from bytes

Reading bytes as UTF-8. `Utf8.decode` never fails: each longest stretch of bytes that begins a
character but does not complete one, and each byte that can begin none, becomes one replacement
character. `Utf8.decode?` accepts well-formed bytes only.

The bytes that may continue a character depend on its first byte, which rules out overlong forms,
surrogates and numbers beyond the last code point; `Utf8.Pending` keeps what is still due.
-/

namespace LineShell

namespace Utf8

/-- A character of which some bytes have been read. -/
structure Pending where
  /-- The bits read so far. -/
  bits : Nat
  /-- How many bytes are due, at least one. -/
  due : Nat
  /-- The least next byte. -/
  low : UInt8
  /-- The greatest next byte. -/
  high : UInt8

/-- What a byte begins. -/
inductive Start where
  /-- It is a character by itself. -/
  | whole (c : Char)
  /-- It begins a character of several bytes. -/
  | begins (p : Pending)
  /-- It begins nothing. -/
  | nothing

/-- What a byte begins. -/
def start (b : UInt8) : Start :=
  let n := b.toNat
  if n < 0x80 then .whole (Char.ofNat n)
  else if n < 0xC2 then .nothing
  else if n < 0xE0 then .begins ⟨n - 0xC0, 1, 0x80, 0xBF⟩
  else if n < 0xF0 then
    .begins ⟨n - 0xE0, 2, if n = 0xE0 then 0xA0 else 0x80, if n = 0xED then 0x9F else 0xBF⟩
  else if n < 0xF5 then
    .begins ⟨n - 0xF0, 3, if n = 0xF0 then 0x90 else 0x80, if n = 0xF4 then 0x8F else 0xBF⟩
  else .nothing

/-- The bytes read one after another: `some c` for a character, `none` for a stretch that is
none. -/
def readFrom : Option Pending → List UInt8 → List (Option Char)
  | none, [] => []
  | some _, [] => [none]
  | none, b :: bs =>
      match start b with
      | .whole c => some c :: readFrom none bs
      | .begins p => readFrom (some p) bs
      | .nothing => none :: readFrom none bs
  | some p, b :: bs =>
      if p.low ≤ b ∧ b ≤ p.high then
        let bits := p.bits * 64 + (b.toNat - 0x80)
        if p.due = 1 then some (Char.ofNat bits) :: readFrom none bs
        else readFrom (some ⟨bits, p.due - 1, 0x80, 0xBF⟩) bs
      else
        none :: match start b with
          | .whole c => some c :: readFrom none bs
          | .begins q => readFrom (some q) bs
          | .nothing => none :: readFrom none bs

/-- The text of some bytes, with a replacement character for each malformed stretch. -/
def decode (bs : List UInt8) : List Char := (readFrom none bs).map (·.getD '\uFFFD')

/-- The text of well-formed bytes. -/
def decode? (bs : List UInt8) : Option (List Char) := (readFrom none bs).mapM id

/-- The bytes of a text. -/
def encode (cs : List Char) : List UInt8 := (String.ofList cs).toUTF8.toList

end Utf8

end LineShell
