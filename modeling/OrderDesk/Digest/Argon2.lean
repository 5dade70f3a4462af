/-
The password digest Argon2.

A password and a salt are made into a few bytes at a cost that can be chosen: a
matrix of blocks of 1024 bytes is filled several times over, and every block depends
on the one before it and on another one.  Which other one depends on the content of
the blocks (`d`), only on the position (`i`), or on the position in the first half
of the first pass and on the content from then on (`id`).  The matrix has a row, or
lane, for each degree of parallelism, and a pass is made in four slices; within a
slice no lane looks at another lane's part of the slice.

A block is kept as eight rows of sixteen words, each word in a field of its own.
-/
import OrderDesk.Digest.Blake2b

namespace OrderDesk.Digest.Argon2

/-- How the other block is chosen. -/
inductive Variant where
  | d
  | i
  | id
  deriving DecidableEq, Repr

/-- The two versions; since the second, a later pass keeps what a block held. -/
inductive Version where
  | v16
  | v19
  deriving DecidableEq, Repr

/-- What the digest costs and what else goes into it. -/
structure Params where
  variant : Variant
  version : Version
  /-- The size of the matrix in blocks of 1024 bytes. -/
  memory : Nat
  passes : Nat
  lanes : Nat
  /-- The number of bytes of the digest. -/
  size : Nat
  /-- More bytes to digest with the password. -/
  data : List UInt8
  deriving DecidableEq, Repr

/-! ### Blocks -/

/-- Sixteen words of a block. -/
structure Row where
  w0 : UInt64
  w1 : UInt64
  w2 : UInt64
  w3 : UInt64
  w4 : UInt64
  w5 : UInt64
  w6 : UInt64
  w7 : UInt64
  w8 : UInt64
  w9 : UInt64
  w10 : UInt64
  w11 : UInt64
  w12 : UInt64
  w13 : UInt64
  w14 : UInt64
  w15 : UInt64
  deriving Inhabited

/-- A block of 128 words. -/
structure Block where
  r0 : Row
  r1 : Row
  r2 : Row
  r3 : Row
  r4 : Row
  r5 : Row
  r6 : Row
  r7 : Row
  deriving Inhabited

/-- The sum of two words and twice the product of their lower halves. -/
@[inline] def blend (x y : UInt64) : UInt64 :=
  x + y + 2 * (x &&& 0xFFFFFFFF) * (y &&& 0xFFFFFFFF)

/-- Mix four words and go on with the results. -/
@[inline] def quarter {α : Type} (a b c d : UInt64) (next : UInt64 → UInt64 → UInt64 → UInt64 → α) :
    α :=
  let a := blend a b
  let d := d ^^^ a
  let d := (d >>> 32) ||| (d <<< 32)
  let c := blend c d
  let b := b ^^^ c
  let b := (b >>> 24) ||| (b <<< 40)
  let a := blend a b
  let d := d ^^^ a
  let d := (d >>> 16) ||| (d <<< 48)
  let c := blend c d
  let b := b ^^^ c
  let b := (b >>> 63) ||| (b <<< 1)
  next a b c d

/-- Mix sixteen words. -/
def Row.mix : Row → Row
  | ⟨w0, w1, w2, w3, w4, w5, w6, w7, w8, w9, w10, w11, w12, w13, w14, w15⟩ =>
  quarter w0 w4 w8 w12 fun w0 w4 w8 w12 =>
  quarter w1 w5 w9 w13 fun w1 w5 w9 w13 =>
  quarter w2 w6 w10 w14 fun w2 w6 w10 w14 =>
  quarter w3 w7 w11 w15 fun w3 w7 w11 w15 =>
  quarter w0 w5 w10 w15 fun w0 w5 w10 w15 =>
  quarter w1 w6 w11 w12 fun w1 w6 w11 w12 =>
  quarter w2 w7 w8 w13 fun w2 w7 w8 w13 =>
  quarter w3 w4 w9 w14 fun w3 w4 w9 w14 =>
  ⟨w0, w1, w2, w3, w4, w5, w6, w7, w8, w9, w10, w11, w12, w13, w14, w15⟩

/-- Combine two rows bit by bit. -/
def Row.xor (a b : Row) : Row :=
  ⟨a.w0 ^^^ b.w0, a.w1 ^^^ b.w1, a.w2 ^^^ b.w2, a.w3 ^^^ b.w3,
   a.w4 ^^^ b.w4, a.w5 ^^^ b.w5, a.w6 ^^^ b.w6, a.w7 ^^^ b.w7,
   a.w8 ^^^ b.w8, a.w9 ^^^ b.w9, a.w10 ^^^ b.w10, a.w11 ^^^ b.w11,
   a.w12 ^^^ b.w12, a.w13 ^^^ b.w13, a.w14 ^^^ b.w14, a.w15 ^^^ b.w15⟩

/-- Combine two blocks bit by bit. -/
def Block.xor (a b : Block) : Block :=
  ⟨a.r0.xor b.r0, a.r1.xor b.r1, a.r2.xor b.r2, a.r3.xor b.r3,
   a.r4.xor b.r4, a.r5.xor b.r5, a.r6.xor b.r6, a.r7.xor b.r7⟩

/-- Mix each row of a block. -/
def Block.mixRows (b : Block) : Block :=
  ⟨b.r0.mix, b.r1.mix, b.r2.mix, b.r3.mix, b.r4.mix, b.r5.mix, b.r6.mix, b.r7.mix⟩

/-- Mix the columns of a block, each two words wide. -/
def Block.mixColumns (q : Block) : Block :=
  let c0 := Row.mix ⟨q.r0.w0, q.r0.w1, q.r1.w0, q.r1.w1, q.r2.w0, q.r2.w1, q.r3.w0, q.r3.w1,
    q.r4.w0, q.r4.w1, q.r5.w0, q.r5.w1, q.r6.w0, q.r6.w1, q.r7.w0, q.r7.w1⟩
  let c1 := Row.mix ⟨q.r0.w2, q.r0.w3, q.r1.w2, q.r1.w3, q.r2.w2, q.r2.w3, q.r3.w2, q.r3.w3,
    q.r4.w2, q.r4.w3, q.r5.w2, q.r5.w3, q.r6.w2, q.r6.w3, q.r7.w2, q.r7.w3⟩
  let c2 := Row.mix ⟨q.r0.w4, q.r0.w5, q.r1.w4, q.r1.w5, q.r2.w4, q.r2.w5, q.r3.w4, q.r3.w5,
    q.r4.w4, q.r4.w5, q.r5.w4, q.r5.w5, q.r6.w4, q.r6.w5, q.r7.w4, q.r7.w5⟩
  let c3 := Row.mix ⟨q.r0.w6, q.r0.w7, q.r1.w6, q.r1.w7, q.r2.w6, q.r2.w7, q.r3.w6, q.r3.w7,
    q.r4.w6, q.r4.w7, q.r5.w6, q.r5.w7, q.r6.w6, q.r6.w7, q.r7.w6, q.r7.w7⟩
  let c4 := Row.mix ⟨q.r0.w8, q.r0.w9, q.r1.w8, q.r1.w9, q.r2.w8, q.r2.w9, q.r3.w8, q.r3.w9,
    q.r4.w8, q.r4.w9, q.r5.w8, q.r5.w9, q.r6.w8, q.r6.w9, q.r7.w8, q.r7.w9⟩
  let c5 := Row.mix ⟨q.r0.w10, q.r0.w11, q.r1.w10, q.r1.w11, q.r2.w10, q.r2.w11, q.r3.w10,
    q.r3.w11, q.r4.w10, q.r4.w11, q.r5.w10, q.r5.w11, q.r6.w10, q.r6.w11, q.r7.w10, q.r7.w11⟩
  let c6 := Row.mix ⟨q.r0.w12, q.r0.w13, q.r1.w12, q.r1.w13, q.r2.w12, q.r2.w13, q.r3.w12,
    q.r3.w13, q.r4.w12, q.r4.w13, q.r5.w12, q.r5.w13, q.r6.w12, q.r6.w13, q.r7.w12, q.r7.w13⟩
  let c7 := Row.mix ⟨q.r0.w14, q.r0.w15, q.r1.w14, q.r1.w15, q.r2.w14, q.r2.w15, q.r3.w14,
    q.r3.w15, q.r4.w14, q.r4.w15, q.r5.w14, q.r5.w15, q.r6.w14, q.r6.w15, q.r7.w14, q.r7.w15⟩
  ⟨ ⟨c0.w0, c0.w1, c1.w0, c1.w1, c2.w0, c2.w1, c3.w0, c3.w1, c4.w0, c4.w1, c5.w0, c5.w1, c6.w0,
     c6.w1, c7.w0, c7.w1⟩,
    ⟨c0.w2, c0.w3, c1.w2, c1.w3, c2.w2, c2.w3, c3.w2, c3.w3, c4.w2, c4.w3, c5.w2, c5.w3, c6.w2,
     c6.w3, c7.w2, c7.w3⟩,
    ⟨c0.w4, c0.w5, c1.w4, c1.w5, c2.w4, c2.w5, c3.w4, c3.w5, c4.w4, c4.w5, c5.w4, c5.w5, c6.w4,
     c6.w5, c7.w4, c7.w5⟩,
    ⟨c0.w6, c0.w7, c1.w6, c1.w7, c2.w6, c2.w7, c3.w6, c3.w7, c4.w6, c4.w7, c5.w6, c5.w7, c6.w6,
     c6.w7, c7.w6, c7.w7⟩,
    ⟨c0.w8, c0.w9, c1.w8, c1.w9, c2.w8, c2.w9, c3.w8, c3.w9, c4.w8, c4.w9, c5.w8, c5.w9, c6.w8,
     c6.w9, c7.w8, c7.w9⟩,
    ⟨c0.w10, c0.w11, c1.w10, c1.w11, c2.w10, c2.w11, c3.w10, c3.w11, c4.w10, c4.w11, c5.w10, c5.w11,
     c6.w10, c6.w11, c7.w10, c7.w11⟩,
    ⟨c0.w12, c0.w13, c1.w12, c1.w13, c2.w12, c2.w13, c3.w12, c3.w13, c4.w12, c4.w13, c5.w12, c5.w13,
     c6.w12, c6.w13, c7.w12, c7.w13⟩,
    ⟨c0.w14, c0.w15, c1.w14, c1.w15, c2.w14, c2.w15, c3.w14, c3.w15, c4.w14, c4.w15, c5.w14, c5.w15,
     c6.w14, c6.w15, c7.w14, c7.w15⟩⟩

/-- The block that two blocks make. -/
def Block.compress (a b : Block) : Block :=
  let r := a.xor b
  r.mixRows.mixColumns.xor r

/-- The words of a row in order. -/
def Row.toList (r : Row) : List UInt64 :=
  [r.w0, r.w1, r.w2, r.w3, r.w4, r.w5, r.w6, r.w7,
   r.w8, r.w9, r.w10, r.w11, r.w12, r.w13, r.w14, r.w15]

/-- The words of a block in order. -/
def Block.toList (b : Block) : List UInt64 :=
  [b.r0, b.r1, b.r2, b.r3, b.r4, b.r5, b.r6, b.r7].flatMap Row.toList

/-- The row whose words are given by their positions. -/
def Row.ofFn (word : Nat → UInt64) : Row :=
  ⟨word 0, word 1, word 2, word 3, word 4, word 5, word 6, word 7,
   word 8, word 9, word 10, word 11, word 12, word 13, word 14, word 15⟩

/-- The block whose words are given by their positions. -/
def Block.ofFn (word : Nat → UInt64) : Block :=
  let row (i : Nat) : Row := .ofFn fun j => word (16 * i + j)
  ⟨row 0, row 1, row 2, row 3, row 4, row 5, row 6, row 7⟩

/-- The block of zeros. -/
def Block.zero : Block := .ofFn fun _ => 0

/-- The block that 1024 bytes make up. -/
def Block.ofBytes (bytes : List UInt8) : Block :=
  let words := (List.range 128).map fun i =>
    ((bytes.drop (8 * i)).take 8).foldr (fun b (w : UInt64) => (w <<< 8) ||| b.toUInt64) 0
  let words := words.toArray
  .ofFn fun i => words.getD i 0

/-- The bytes of a block. -/
def Block.toBytes (b : Block) : List UInt8 := b.toList.flatMap Blake2b.littleEndian

/-! ### Digests of any length -/

/-- The four bytes of a number, least significant first. -/
def word32 (n : Nat) : List UInt8 :=
  [UInt8.ofNat n, UInt8.ofNat (n / 256), UInt8.ofNat (n / 65536), UInt8.ofNat (n / 16777216)]

/-- Chain `n` digests of 64 bytes, of which the first 32 count, and one that ends the whole. -/
def chain : Nat → List UInt8 → Nat → List UInt8
  | 0, v, size => Blake2b.digest size v
  | n + 1, v, size =>
    let next := Blake2b.digest 64 v
    next.take 32 ++ chain n next (size - 32)

/-- A digest with `size` bytes, also more than sixty-four. -/
def longDigest (size : Nat) (message : List UInt8) : List UInt8 :=
  let message := word32 size ++ message
  if size ≤ 64 then Blake2b.digest size message
  else
    let first := Blake2b.digest 64 message
    first.take 32 ++ chain ((size + 31) / 32 - 3) first (size - 32)

/-! ### Filling the matrix -/

/-- The number of blocks of a lane in one slice. -/
def Params.sliceLength (p : Params) : Nat := p.memory / (4 * p.lanes)

/-- The number of blocks of a lane. -/
def Params.laneLength (p : Params) : Nat := 4 * p.sliceLength

/-- A position while the matrix is filled. -/
structure Position where
  pass : Nat
  slice : Nat
  lane : Nat
  index : Nat
  deriving DecidableEq, Repr

/-- The other block is chosen by the position alone. -/
def Params.isBlind (p : Params) (pos : Position) : Bool :=
  match p.variant with
  | .d => false
  | .i => true
  | .id => pos.pass = 0 && pos.slice < 2

/-- The block of pseudo random words for 128 positions from this one. -/
def addresses (p : Params) (pos : Position) : Block :=
  let input : Block := .ofFn fun i =>
    match i with
    | 0 => pos.pass.toUInt64
    | 1 => pos.lane.toUInt64
    | 2 => pos.slice.toUInt64
    | 3 => (4 * p.lanes * p.sliceLength).toUInt64
    | 4 => p.passes.toUInt64
    | 5 => match p.variant with
      | .d => 0
      | .i => 1
      | .id => 2
    | 6 => (pos.index / 128 + 1).toUInt64
    | _ => 0
  Block.zero.compress (Block.zero.compress input)

/-- The place in the matrix of the other block, chosen by a pseudo random word. -/
def reference (p : Params) (pos : Position) (random : UInt64) : Nat :=
  let lane :=
    if pos.pass = 0 ∧ pos.slice = 0 then pos.lane
    else (random >>> 32).toNat % p.lanes
  let finished := if pos.pass = 0 then pos.slice * p.sliceLength else p.laneLength - p.sliceLength
  let area :=
    if lane = pos.lane then finished + pos.index - 1
    else if pos.index = 0 then finished - 1
    else finished
  let x := (random &&& 0xFFFFFFFF).toNat
  let y := x * x / Nat.pow 2 32
  let back := area - 1 - area * y / Nat.pow 2 32
  let start :=
    if pos.pass = 0 ∨ pos.slice = 3 then 0 else (pos.slice + 1) * p.sliceLength
  lane * p.laneLength + (start + back) % p.laneLength

/-- Fill the blocks of one lane in one slice from `pos` on.  `random` holds the pseudo random
words when they come from the position alone. -/
def fillSegment (p : Params) : Nat → Position → Array UInt64 → Array Block → Array Block
  | 0, _, _, matrix => matrix
  | n + 1, pos, random, matrix =>
    let next := { pos with index := pos.index + 1 }
    if pos.pass = 0 ∧ pos.slice = 0 ∧ pos.index < 2 then
      let random :=
        if p.isBlind pos && pos.index = 0 then (addresses p pos).toList.toArray else random
      fillSegment p n next random matrix
    else
      let random :=
        if p.isBlind pos && pos.index % 128 = 0 then (addresses p pos).toList.toArray else random
      let column := pos.slice * p.sliceLength + pos.index
      let here := pos.lane * p.laneLength + column
      let before := pos.lane * p.laneLength + (column + p.laneLength - 1) % p.laneLength
      let last := matrix.getD before .zero
      let word := if p.isBlind pos then random.getD (pos.index % 128) 0 else last.r0.w0
      let other := matrix.getD (reference p pos word) .zero
      let block := last.compress other
      let block :=
        if pos.pass = 0 ∨ p.version = .v16 then block
        else block.xor (matrix.getD here .zero)
      fillSegment p n next random (matrix.setIfInBounds here block)

/-- Fill the matrix. -/
def fill (p : Params) (matrix : Array Block) : Array Block :=
  (List.range p.passes).foldl
    (fun matrix pass =>
      (List.range 4).foldl
        (fun matrix slice =>
          (List.range p.lanes).foldl
            (fun matrix lane => fillSegment p p.sliceLength ⟨pass, slice, lane, 0⟩ #[] matrix)
            matrix)
        matrix)
    matrix

/-! ### The digest -/

/-- The digest that everything depends on. -/
def seed (p : Params) (password salt : List UInt8) : List UInt8 :=
  let counted (bytes : List UInt8) := word32 bytes.length ++ bytes
  let variant := match p.variant with
    | .d => 0
    | .i => 1
    | .id => 2
  let version := match p.version with
    | .v16 => 16
    | .v19 => 19
  Blake2b.digest 64
    (word32 p.lanes ++ word32 p.size ++ word32 p.memory ++ word32 p.passes ++ word32 version ++
      word32 variant ++ counted password ++ counted salt ++ counted [] ++ counted p.data)

/-- The matrix with the first two blocks of each lane. -/
def start (p : Params) (seed : List UInt8) : Array Block :=
  let matrix := Array.replicate (p.lanes * p.laneLength) Block.zero
  (List.range p.lanes).foldl
    (fun matrix lane =>
      let block (n : Nat) := Block.ofBytes (longDigest 1024 (seed ++ word32 n ++ word32 lane))
      let at' := lane * p.laneLength
      (matrix.setIfInBounds at' (block 0)).setIfInBounds (at' + 1) (block 1))
    matrix

/-- The digest of a password with a salt. -/
def digest (p : Params) (password salt : List UInt8) : List UInt8 :=
  let matrix := fill p (start p (seed p password salt))
  let last (lane : Nat) := matrix.getD (lane * p.laneLength + p.laneLength - 1) .zero
  let block := (List.range (p.lanes - 1)).foldl (fun b lane => b.xor (last (lane + 1))) (last 0)
  longDigest p.size block.toBytes

end OrderDesk.Digest.Argon2
