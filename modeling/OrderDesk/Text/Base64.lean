/-
Base 64 without padding.

Three bytes are four characters; one or two bytes at the end are two or three.  The
two alphabets in use differ in their last two characters.  Reading is strict: the
bits of the last character that belong to no byte must be zero, so that a sequence of
bytes has exactly one written form.
-/
import OrderDesk.Text.Ascii

namespace OrderDesk.Text.Base64

/-- The last two characters of an alphabet; the first sixty-two are letters and digits. -/
structure Alphabet where
  sixtyTwo : Char
  sixtyThree : Char
  deriving DecidableEq, Repr

/-- The alphabet that may stand in an address. -/
def urlSafe : Alphabet := ⟨'-', '_'⟩

/-- The usual alphabet. -/
def standard : Alphabet := ⟨'+', '/'⟩

/-- The character of a value below sixty-four. -/
def Alphabet.char (a : Alphabet) (n : Nat) : Char :=
  if n < 26 then Char.ofNat (65 + n)
  else if n < 52 then Char.ofNat (71 + n)
  else if n < 62 then Char.ofNat (n - 4)
  else if n = 62 then a.sixtyTwo
  else a.sixtyThree

/-- The value of a character of the alphabet. -/
def Alphabet.value? (a : Alphabet) (c : Char) : Option Nat :=
  if 'A' ≤ c ∧ c ≤ 'Z' then some (c.toNat - 65)
  else if 'a' ≤ c ∧ c ≤ 'z' then some (c.toNat - 71)
  else if '0' ≤ c ∧ c ≤ '9' then some (c.toNat + 4)
  else if c = a.sixtyTwo then some 62
  else if c = a.sixtyThree then some 63
  else none

/-- The characters of the bytes. -/
def encode (a : Alphabet) : List UInt8 → List Char
  | [] => []
  | [x] => [a.char (x.toNat / 4), a.char (x.toNat % 4 * 16)]
  | [x, y] =>
    [a.char (x.toNat / 4), a.char (x.toNat % 4 * 16 + y.toNat / 16), a.char (y.toNat % 16 * 4)]
  | x :: y :: z :: rest =>
    a.char (x.toNat / 4) :: a.char (x.toNat % 4 * 16 + y.toNat / 16) ::
      a.char (y.toNat % 16 * 4 + z.toNat / 64) :: a.char (z.toNat % 64) :: encode a rest

/-- Turn the values of characters into bytes, in front of those in `done`, last byte first. -/
def collect (done : List UInt8) : List Nat → Option (List UInt8)
  | [] => some done
  | [_] => none
  | [p, q] => if q % 16 = 0 then some (UInt8.ofNat (p * 4 + q / 16) :: done) else none
  | [p, q, r] =>
    if r % 4 = 0 then
      some (UInt8.ofNat (q % 16 * 16 + r / 4) :: UInt8.ofNat (p * 4 + q / 16) :: done)
    else none
  | p :: q :: r :: s :: rest =>
    collect (UInt8.ofNat (r % 4 * 64 + s) :: UInt8.ofNat (q % 16 * 16 + r / 4) ::
      UInt8.ofNat (p * 4 + q / 16) :: done) rest

/-- The bytes that the characters stand for. -/
def decode (a : Alphabet) (cs : List Char) : Option (List UInt8) :=
  match cs.mapM a.value? with
  | none => none
  | some values => (collect [] values).map List.reverse

end OrderDesk.Text.Base64
