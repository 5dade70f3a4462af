/-
Random identifiers.

Sixteen random bytes make an identifier of thirty-two hexadecimal digits in five groups.
Six of the bits are not random but say so: they mark the identifier as one that was made
from random bytes.
-/
import OrderDesk.Text.Ascii

namespace OrderDesk.Text.Uuid

/-- Set the bits that mark an identifier as made from random bytes. -/
def mark (i : Nat) (b : UInt8) : UInt8 :=
  if i = 6 then b &&& 0x0F ||| 0x40
  else if i = 8 then b &&& 0x3F ||| 0x80
  else b

/-- The identifier made from sixteen random bytes. -/
def ofRandom (bytes : Vector UInt8 16) : String :=
  let digits := (hexText (bytes.mapIdx mark).toList).toList
  let group (start length : Nat) := String.ofList ((digits.drop start).take length)
  String.intercalate "-" [group 0 8, group 8 4, group 12 4, group 16 4, group 20 12]

end OrderDesk.Text.Uuid
