/-
The digest SHA-256.

A message of any length is made into thirty-two bytes.  It is taken in by blocks of
sixty-four bytes, the last of which holds the length of the message.
-/
namespace OrderDesk.Digest.Sha256

/-- The eight words that are carried from block to block. -/
structure State where
  a : UInt32
  b : UInt32
  c : UInt32
  d : UInt32
  e : UInt32
  f : UInt32
  g : UInt32
  h : UInt32
  deriving DecidableEq, Repr

/-- The words before the first block: fractional parts of square roots of primes. -/
def initial : State :=
  ⟨0x6A09E667, 0xBB67AE85, 0x3C6EF372, 0xA54FF53A,
   0x510E527F, 0x9B05688C, 0x1F83D9AB, 0x5BE0CD19⟩

/-- One constant for each round: fractional parts of cube roots of primes. -/
def constants : List UInt32 :=
  [0x428A2F98, 0x71374491, 0xB5C0FBCF, 0xE9B5DBA5, 0x3956C25B, 0x59F111F1, 0x923F82A4, 0xAB1C5ED5,
   0xD807AA98, 0x12835B01, 0x243185BE, 0x550C7DC3, 0x72BE5D74, 0x80DEB1FE, 0x9BDC06A7, 0xC19BF174,
   0xE49B69C1, 0xEFBE4786, 0x0FC19DC6, 0x240CA1CC, 0x2DE92C6F, 0x4A7484AA, 0x5CB0A9DC, 0x76F988DA,
   0x983E5152, 0xA831C66D, 0xB00327C8, 0xBF597FC7, 0xC6E00BF3, 0xD5A79147, 0x06CA6351, 0x14292967,
   0x27B70A85, 0x2E1B2138, 0x4D2C6DFC, 0x53380D13, 0x650A7354, 0x766A0ABB, 0x81C2C92E, 0x92722C85,
   0xA2BFE8A1, 0xA81A664B, 0xC24B8B70, 0xC76C51A3, 0xD192E819, 0xD6990624, 0xF40E3585, 0x106AA070,
   0x19A4C116, 0x1E376C08, 0x2748774C, 0x34B0BCB5, 0x391C0CB3, 0x4ED8AA4A, 0x5B9CCA4F, 0x682E6FF3,
   0x748F82EE, 0x78A5636F, 0x84C87814, 0x8CC70208, 0x90BEFFFA, 0xA4506CEB, 0xBEF9A3F7, 0xC67178F2]

/-- Turn the bits of a word to the right. -/
def rotateRight (x : UInt32) (n : UInt32) : UInt32 := (x >>> n) ||| (x <<< (32 - n))

/-- Mix one word of the schedule into the state. -/
def round (s : State) (k w : UInt32) : State :=
  let x := s.e
  let sum1 := rotateRight x 6 ^^^ rotateRight x 11 ^^^ rotateRight x 25
  let choice := (s.e &&& s.f) ^^^ ((~~~s.e) &&& s.g)
  let t1 := s.h + sum1 + choice + k + w
  let x := s.a
  let sum0 := rotateRight x 2 ^^^ rotateRight x 13 ^^^ rotateRight x 22
  let majority := (s.a &&& s.b) ^^^ (s.a &&& s.c) ^^^ (s.b &&& s.c)
  ⟨t1 + (sum0 + majority), s.a, s.b, s.c, s.d + t1, s.e, s.f, s.g⟩

/-- The word of the schedule that follows those in `ws`. -/
def nextWord (ws : Array UInt32) : UInt32 :=
  let n := ws.size
  let sigma0 (x : UInt32) := rotateRight x 7 ^^^ rotateRight x 18 ^^^ x >>> 3
  let sigma1 (x : UInt32) := rotateRight x 17 ^^^ rotateRight x 19 ^^^ x >>> 10
  sigma1 (ws.getD (n - 2) 0) + ws.getD (n - 7) 0 + sigma0 (ws.getD (n - 15) 0) +
    ws.getD (n - 16) 0

/-- The first `n` words of the bytes; the first byte of a word is its most significant. -/
def wordsOf : Nat → List UInt8 → List UInt32
  | 0, _ => []
  | n + 1, bytes =>
    (bytes.take 4).foldl (fun w b => (w <<< 8) ||| b.toUInt32) 0 :: wordsOf n (bytes.drop 4)

/-- The words of a block and those that are derived from them. -/
def schedule (block : List UInt8) : Array UInt32 :=
  (List.range 48).foldl (fun ws _ => ws.push (nextWord ws)) (wordsOf 16 block).toArray

/-- Take in one block. -/
def compress (s : State) (block : List UInt8) : State :=
  let t := (constants.zip (schedule block).toList).foldl (fun s (k, w) => round s k w) s
  ⟨s.a + t.a, s.b + t.b, s.c + t.c, s.d + t.d, s.e + t.e, s.f + t.f, s.g + t.g, s.h + t.h⟩

/-- Take in `n` blocks. -/
def compressAll : Nat → State → List UInt8 → State
  | 0, s, _ => s
  | n + 1, s, bytes => compressAll n (compress s (bytes.take 64)) (bytes.drop 64)

/-- The bytes of a number, most significant first. -/
def bigEndian : Nat → Nat → List UInt8
  | 0, _ => []
  | n + 1, x => bigEndian n (x / 256) ++ [UInt8.ofNat (x % 256)]

/-- The message with a one bit, zeros up to the end of a block, and its length in bits. -/
def padded (message : List UInt8) : List UInt8 :=
  let used := (message.length + 9) % 64
  message ++ 0x80 :: List.replicate ((64 - used) % 64) 0 ++
    bigEndian 8 (message.length * 8)

/-- The thirty-two bytes for a message. -/
def digest (message : List UInt8) : List UInt8 :=
  let bytes := padded message
  let s := compressAll (bytes.length / 64) initial bytes
  [s.a, s.b, s.c, s.d, s.e, s.f, s.g, s.h].flatMap fun w => bigEndian 4 w.toNat

end OrderDesk.Digest.Sha256
