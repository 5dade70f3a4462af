/-
The digest BLAKE2b.

A message of any length is made into one to sixty-four bytes, without a key.  Blocks
have a hundred and twenty-eight bytes; the last is filled with zeros and marked, and
each is mixed in together with the number of bytes up to its end.
-/
namespace OrderDesk.Digest.Blake2b

/-- The eight constants that the state starts from. -/
def constants : Array UInt64 :=
  #[0x6A09E667F3BCC908, 0xBB67AE8584CAA73B, 0x3C6EF372FE94F82B, 0xA54FF53A5F1D36F1,
    0x510E527FADE682D1, 0x9B05688C2B3E6C1F, 0x1F83D9ABFB41BD6B, 0x5BE0CD19137E2179]

/-- The order in which each round takes the words of a block. -/
def orders : List (Array Nat) :=
  [#[0, 1, 2, 3, 4, 5, 6, 7, 8, 9, 10, 11, 12, 13, 14, 15],
   #[14, 10, 4, 8, 9, 15, 13, 6, 1, 12, 0, 2, 11, 7, 5, 3],
   #[11, 8, 12, 0, 5, 2, 15, 13, 10, 14, 3, 6, 7, 1, 9, 4],
   #[7, 9, 3, 1, 13, 12, 11, 14, 2, 6, 5, 10, 4, 0, 15, 8],
   #[9, 0, 5, 7, 2, 4, 10, 15, 14, 1, 11, 12, 6, 8, 3, 13],
   #[2, 12, 6, 10, 0, 11, 8, 3, 4, 13, 7, 5, 15, 14, 1, 9],
   #[12, 5, 1, 15, 14, 13, 4, 10, 0, 7, 6, 3, 9, 2, 8, 11],
   #[13, 11, 7, 14, 12, 1, 3, 9, 5, 0, 15, 4, 8, 6, 2, 10],
   #[6, 15, 14, 9, 11, 3, 0, 8, 12, 2, 13, 7, 1, 4, 10, 5],
   #[10, 2, 8, 4, 7, 6, 1, 5, 15, 11, 9, 14, 3, 12, 13, 0],
   #[0, 1, 2, 3, 4, 5, 6, 7, 8, 9, 10, 11, 12, 13, 14, 15],
   #[14, 10, 4, 8, 9, 15, 13, 6, 1, 12, 0, 2, 11, 7, 5, 3]]

/-- The places that the eight mixing steps of a round work on: columns, then diagonals. -/
def places : List (Nat × Nat × Nat × Nat) :=
  [(0, 4, 8, 12), (1, 5, 9, 13), (2, 6, 10, 14), (3, 7, 11, 15),
   (0, 5, 10, 15), (1, 6, 11, 12), (2, 7, 8, 13), (3, 4, 9, 14)]

/-- Turn the bits of a word to the right. -/
def rotateRight (x n : UInt64) : UInt64 := (x >>> n) ||| (x <<< (64 - n))

/-- Mix two words of the block into four places. -/
def mix (v : Array UInt64) (at' : Nat × Nat × Nat × Nat) (x y : UInt64) : Array UInt64 :=
  let (i, j, k, l) := at'
  let a := v.getD i 0
  let b := v.getD j 0
  let c := v.getD k 0
  let d := v.getD l 0
  let a := a + b + x
  let d := rotateRight (d ^^^ a) 32
  let c := c + d
  let b := rotateRight (b ^^^ c) 24
  let a := a + b + y
  let d := rotateRight (d ^^^ a) 16
  let c := c + d
  let b := rotateRight (b ^^^ c) 63
  (((v.setIfInBounds i a).setIfInBounds j b).setIfInBounds k c).setIfInBounds l d

/-- The words of a block; the first byte of a word is its least significant. -/
def wordsOf (block : List UInt8) : Array UInt64 :=
  ((List.range 16).map fun i =>
    ((block.drop (8 * i)).take 8).foldr (fun b (w : UInt64) => (w <<< 8) ||| b.toUInt64) 0).toArray

/-- The bytes of a word, least significant first. -/
def littleEndian (w : UInt64) : List UInt8 :=
  (List.range 8).map fun i => (w >>> (8 * i).toUInt64).toUInt8

/-- Take in one block; `count` bytes have been taken in with it. -/
def compress (h : Array UInt64) (block : List UInt8) (count : Nat) (last : Bool) :
    Array UInt64 :=
  let m := wordsOf block
  let v := h ++ constants
  let v := v.modify 12 (· ^^^ count.toUInt64)
  let v := v.modify 13 (· ^^^ (count / Nat.pow 2 64).toUInt64)
  let v := if last then v.modify 14 (~~~ ·) else v
  let v := orders.foldl
    (fun v order =>
      (List.range 8).foldl
        (fun v i =>
          mix v (places.getD i (0, 0, 0, 0)) (m.getD (order.getD (2 * i) 0) 0)
            (m.getD (order.getD (2 * i + 1) 0) 0))
        v)
    v
  h.mapIdx fun i w => w ^^^ v.getD i 0 ^^^ v.getD (i + 8) 0

/-- Take in `n` blocks before the last one, and then the last one. -/
def compressAll : Nat → Array UInt64 → List UInt8 → Nat → Array UInt64
  | 0, h, bytes, count =>
    compress h (bytes ++ List.replicate (128 - bytes.length) 0) (count + bytes.length) true
  | n + 1, h, bytes, count =>
    compressAll n (compress h (bytes.take 128) (count + 128) false) (bytes.drop 128) (count + 128)

/-- The digest of a message with `size` bytes. -/
def digest (size : Nat) (message : List UInt8) : List UInt8 :=
  let h := constants.modify 0 (· ^^^ (0x01010000 + size).toUInt64)
  let h := compressAll ((message.length - 1) / 128) h message 0
  (h.toList.flatMap littleEndian).take size

end OrderDesk.Digest.Blake2b
