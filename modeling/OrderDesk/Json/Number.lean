/-
Numbers as they are written in a JSON text.

A number keeps its digits.  It is an integer when it has neither a fraction nor an
exponent and fits sixty-four bits, with or without a sign; minus zero is not.  Every
other number is read as floating point: as many leading digits as fit sixty-four bits
make a whole number, which is then scaled by one power of ten, so the last place may
be off by one.  A number beyond the largest finite value has no value at all.
-/
import OrderDesk.Text.Ascii

namespace OrderDesk.Json

open OrderDesk.Text

/-- A number, digit by digit. -/
structure Number where
  negative : Bool
  whole : List Char
  /-- The digits after the point; none when there is no point. -/
  fraction : List Char
  /-- The exponent's sign (`true` for a minus) and digits, when there is an exponent. -/
  exponent : Option (Bool × List Char)
  deriving DecidableEq, Repr

namespace Number

/-- The value of a sequence of digits after `value`. -/
def digitsValue (value : Nat) (ds : List Char) : Nat :=
  ds.foldl (fun n d => n * 10 + digitValue d) value

/-- The integer a number is, when it is one. -/
def toInt? (n : Number) : Option Int :=
  if n.fraction ≠ [] ∨ n.exponent.isSome then none
  else
    let value := digitsValue 0 n.whole
    if n.negative then
      if 0 < value ∧ value ≤ Nat.pow 2 63 then some (-(value : Int)) else none
    else if value < Nat.pow 2 64 then some value
    else none

/-- Append digits to a number as long as it fits sixty-four bits; the digits that are left
over come with the result. -/
def gather (value : Nat) : List Char → Nat × List Char
  | [] => (value, [])
  | d :: rest =>
    let next := value * 10 + digitValue d
    if next < Nat.pow 2 64 then gather next rest else (value, d :: rest)

/-- A power of ten. -/
def powerOfTen (n : Nat) : Float := Float.ofScientific 1 false n

/-- Divide by a power of ten, in steps that a finite value can express.  After three steps
nothing is left of a sixty-four bit number. -/
def scaleDown : Nat → Float → Nat → Float
  | 0, f, _ => f
  | steps + 1, f, e =>
    if e ≤ 308 then f / powerOfTen e
    else scaleDown steps (f / powerOfTen 308) (e - 308)

/-- A whole number times a power of ten, unless that is too large. -/
def scale (value : Nat) (e : Int) : Option Float :=
  let f := value.toUInt64.toFloat
  if e < 0 then some (scaleDown 3 f e.natAbs)
  else if value = 0 then some 0.0
  else if 308 < e then none
  else
    let g := f * powerOfTen e.natAbs
    if g.isInf then none else some g

/-- The floating point value of a number. -/
def toFloat? (n : Number) : Option Float :=
  let (value, dropped) := gather 0 n.whole
  let (value, left) := gather value n.fraction
  let shift : Int := (dropped.length : Int) - ((n.fraction.length : Int) - left.length)
  let magnitude :=
    match n.exponent with
    | none => scale value shift
    | some (down, ds) =>
      let e := digitsValue 0 ds
      if down then scale value (shift - e) else scale value (shift + e)
  magnitude.map fun f => if n.negative then -f else f

end Number

end OrderDesk.Json
