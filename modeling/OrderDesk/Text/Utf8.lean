/-
Reading bytes as UTF-8.

Bytes are read one after another; between two bytes the reader only remembers the
sequence it is in.  A sequence that breaks off, or a byte that cannot start one, is
one `none` in the result, so the length of the damage is known and the characters
around it are not affected.  In particular an ASCII byte is always its own character.
-/
namespace OrderDesk.Text.Utf8

/-- A started sequence: how many bytes are missing, the bits read so far, and the bounds of
the next byte, which are narrow after some first bytes so that every character has one form
and no surrogate has any. -/
structure Pending where
  missing : Nat
  bits : Nat
  low : Nat
  high : Nat
  deriving DecidableEq, Repr

/-- Where the reader is after a byte that starts a character, and what it has read. -/
def start (b : Nat) : Option Pending × List (Option Char) :=
  if b < 0x80 then (none, [some (Char.ofNat b)])
  else if b < 0xC2 then (none, [none])
  else if b < 0xE0 then (some ⟨1, b - 0xC0, 0x80, 0xBF⟩, [])
  else if b = 0xE0 then (some ⟨2, 0, 0xA0, 0xBF⟩, [])
  else if b = 0xED then (some ⟨2, 0x0D, 0x80, 0x9F⟩, [])
  else if b < 0xF0 then (some ⟨2, b - 0xE0, 0x80, 0xBF⟩, [])
  else if b = 0xF0 then (some ⟨3, 0, 0x90, 0xBF⟩, [])
  else if b < 0xF4 then (some ⟨3, b - 0xF0, 0x80, 0xBF⟩, [])
  else if b = 0xF4 then (some ⟨3, 4, 0x80, 0x8F⟩, [])
  else (none, [none])

/-- Read one byte.  What is read is added in front of `done`. -/
def step : Option Pending × List (Option Char) → UInt8 → Option Pending × List (Option Char)
  | (none, done), b =>
    let (pending, read) := start b.toNat
    (pending, read ++ done)
  | (some p, done), b =>
    if p.low ≤ b.toNat ∧ b.toNat ≤ p.high then
      let bits := p.bits * 64 + (b.toNat - 0x80)
      if p.missing = 1 then (none, some (Char.ofNat bits) :: done)
      else (some ⟨p.missing - 1, bits, 0x80, 0xBF⟩, done)
    else
      let (pending, read) := start b.toNat
      (pending, read ++ none :: done)

/-- The characters of the bytes, with `none` for each broken sequence. -/
def decode (bytes : List UInt8) : List (Option Char) :=
  match bytes.foldl step (none, []) with
  | (none, done) => done.reverse
  | (some _, done) => (none :: done).reverse

/-- The characters of the bytes, if all of them are well formed. -/
def decode? (bytes : List UInt8) : Option String :=
  let chars := decode bytes
  if chars.all Option.isSome then some (String.ofList (chars.filterMap id)) else none

/-- The characters of the bytes, with the replacement character for each broken sequence. -/
def decodeLossy (bytes : List UInt8) : String :=
  String.ofList ((decode bytes).map fun c => c.getD '\uFFFD')

/-- The bytes of a text. -/
def encode (s : String) : List UInt8 := s.toUTF8.toList

end OrderDesk.Text.Utf8
