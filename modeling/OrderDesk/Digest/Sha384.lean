/-
The digest SHA-384.

A message of any length is made into forty-eight bytes.  It is taken in by blocks of
a hundred and twenty-eight bytes; of the sixty-four bytes at the end the last sixteen
are left out.
-/
namespace OrderDesk.Digest.Sha384

/-- The eight words that are carried from block to block. -/
structure State where
  a : UInt64
  b : UInt64
  c : UInt64
  d : UInt64
  e : UInt64
  f : UInt64
  g : UInt64
  h : UInt64
  deriving DecidableEq, Repr

/-- The words before the first block: fractional parts of square roots of primes. -/
def initial : State :=
  ⟨0xCBBB9D5DC1059ED8, 0x629A292A367CD507, 0x9159015A3070DD17, 0x152FECD8F70E5939,
   0x67332667FFC00B31, 0x8EB44A8768581511, 0xDB0C2E0D64F98FA7, 0x47B5481DBEFA4FA4⟩

/-- One constant for each round: fractional parts of cube roots of primes. -/
def constants : List UInt64 :=
  [0x428A2F98D728AE22, 0x7137449123EF65CD, 0xB5C0FBCFEC4D3B2F, 0xE9B5DBA58189DBBC,
   0x3956C25BF348B538, 0x59F111F1B605D019, 0x923F82A4AF194F9B, 0xAB1C5ED5DA6D8118,
   0xD807AA98A3030242, 0x12835B0145706FBE, 0x243185BE4EE4B28C, 0x550C7DC3D5FFB4E2,
   0x72BE5D74F27B896F, 0x80DEB1FE3B1696B1, 0x9BDC06A725C71235, 0xC19BF174CF692694,
   0xE49B69C19EF14AD2, 0xEFBE4786384F25E3, 0x0FC19DC68B8CD5B5, 0x240CA1CC77AC9C65,
   0x2DE92C6F592B0275, 0x4A7484AA6EA6E483, 0x5CB0A9DCBD41FBD4, 0x76F988DA831153B5,
   0x983E5152EE66DFAB, 0xA831C66D2DB43210, 0xB00327C898FB213F, 0xBF597FC7BEEF0EE4,
   0xC6E00BF33DA88FC2, 0xD5A79147930AA725, 0x06CA6351E003826F, 0x142929670A0E6E70,
   0x27B70A8546D22FFC, 0x2E1B21385C26C926, 0x4D2C6DFC5AC42AED, 0x53380D139D95B3DF,
   0x650A73548BAF63DE, 0x766A0ABB3C77B2A8, 0x81C2C92E47EDAEE6, 0x92722C851482353B,
   0xA2BFE8A14CF10364, 0xA81A664BBC423001, 0xC24B8B70D0F89791, 0xC76C51A30654BE30,
   0xD192E819D6EF5218, 0xD69906245565A910, 0xF40E35855771202A, 0x106AA07032BBD1B8,
   0x19A4C116B8D2D0C8, 0x1E376C085141AB53, 0x2748774CDF8EEB99, 0x34B0BCB5E19B48A8,
   0x391C0CB3C5C95A63, 0x4ED8AA4AE3418ACB, 0x5B9CCA4F7763E373, 0x682E6FF3D6B2B8A3,
   0x748F82EE5DEFB2FC, 0x78A5636F43172F60, 0x84C87814A1F0AB72, 0x8CC702081A6439EC,
   0x90BEFFFA23631E28, 0xA4506CEBDE82BDE9, 0xBEF9A3F7B2C67915, 0xC67178F2E372532B,
   0xCA273ECEEA26619C, 0xD186B8C721C0C207, 0xEADA7DD6CDE0EB1E, 0xF57D4F7FEE6ED178,
   0x06F067AA72176FBA, 0x0A637DC5A2C898A6, 0x113F9804BEF90DAE, 0x1B710B35131C471B,
   0x28DB77F523047D84, 0x32CAAB7B40C72493, 0x3C9EBE0A15C9BEBC, 0x431D67C49C100D4C,
   0x4CC5D4BECB3E42B6, 0x597F299CFC657E2A, 0x5FCB6FAB3AD6FAEC, 0x6C44198C4A475817]

/-- Turn the bits of a word to the right. -/
def rotateRight (x : UInt64) (n : UInt64) : UInt64 := (x >>> n) ||| (x <<< (64 - n))

/-- Mix one word of the schedule into the state. -/
def round (s : State) (k w : UInt64) : State :=
  let x := s.e
  let sum1 := rotateRight x 14 ^^^ rotateRight x 18 ^^^ rotateRight x 41
  let choice := (s.e &&& s.f) ^^^ ((~~~s.e) &&& s.g)
  let t1 := s.h + sum1 + choice + k + w
  let x := s.a
  let sum0 := rotateRight x 28 ^^^ rotateRight x 34 ^^^ rotateRight x 39
  let majority := (s.a &&& s.b) ^^^ (s.a &&& s.c) ^^^ (s.b &&& s.c)
  ⟨t1 + (sum0 + majority), s.a, s.b, s.c, s.d + t1, s.e, s.f, s.g⟩

/-- The word of the schedule that follows those in `ws`. -/
def nextWord (ws : Array UInt64) : UInt64 :=
  let n := ws.size
  let sigma0 (x : UInt64) := rotateRight x 1 ^^^ rotateRight x 8 ^^^ x >>> 7
  let sigma1 (x : UInt64) := rotateRight x 19 ^^^ rotateRight x 61 ^^^ x >>> 6
  sigma1 (ws.getD (n - 2) 0) + ws.getD (n - 7) 0 + sigma0 (ws.getD (n - 15) 0) +
    ws.getD (n - 16) 0

/-- The first `n` words of the bytes; the first byte of a word is its most significant. -/
def wordsOf : Nat → List UInt8 → List UInt64
  | 0, _ => []
  | n + 1, bytes =>
    (bytes.take 8).foldl (fun w b => (w <<< 8) ||| b.toUInt64) 0 :: wordsOf n (bytes.drop 8)

/-- The words of a block and those that are derived from them. -/
def schedule (block : List UInt8) : Array UInt64 :=
  (List.range 64).foldl (fun ws _ => ws.push (nextWord ws)) (wordsOf 16 block).toArray

/-- Take in one block. -/
def compress (s : State) (block : List UInt8) : State :=
  let t := (constants.zip (schedule block).toList).foldl (fun s (k, w) => round s k w) s
  ⟨s.a + t.a, s.b + t.b, s.c + t.c, s.d + t.d, s.e + t.e, s.f + t.f, s.g + t.g, s.h + t.h⟩

/-- Take in `n` blocks. -/
def compressAll : Nat → State → List UInt8 → State
  | 0, s, _ => s
  | n + 1, s, bytes => compressAll n (compress s (bytes.take 128)) (bytes.drop 128)

/-- The bytes of a number, most significant first. -/
def bigEndian : Nat → Nat → List UInt8
  | 0, _ => []
  | n + 1, x => bigEndian n (x / 256) ++ [UInt8.ofNat (x % 256)]

/-- The message with a one bit, zeros up to the end of a block, and its length in bits. -/
def padded (message : List UInt8) : List UInt8 :=
  let used := (message.length + 17) % 128
  message ++ 0x80 :: List.replicate ((128 - used) % 128) 0 ++
    bigEndian 16 (message.length * 8)

/-- The forty-eight bytes for a message. -/
def digest (message : List UInt8) : List UInt8 :=
  let bytes := padded message
  let s := compressAll (bytes.length / 128) initial bytes
  [s.a, s.b, s.c, s.d, s.e, s.f].flatMap fun w => bigEndian 8 w.toNat

end OrderDesk.Digest.Sha384
