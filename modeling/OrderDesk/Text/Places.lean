/-
Floating point numbers with two places after the point.

The number is a whole number of units of a power of two, so it is rounded exactly, and only
where it is written.
-/
import OrderDesk.Text.Shortest

namespace OrderDesk.Text

/-- The number `m` times `2 ^ q` in hundredths.  A half goes to the even neighbour. -/
def hundredths (m : Nat) (q : Int) : Nat :=
  let value := 100 * m * Nat.pow 2 q.toNat
  let unit := Nat.pow 2 (-q).toNat
  let below := value / unit
  let rest := value % unit
  if 2 * rest < unit ∨ (2 * rest = unit ∧ below % 2 = 0) then below else below + 1

/-- The text of a number with two places after the point.  A zero may have a sign. -/
def twoPlaces (f : Float) : String :=
  let bits := f.toBits.toNat
  let sign := if bits < Nat.pow 2 63 then "" else "-"
  if f.isNaN then "NaN"
  else if f.isInf then sign ++ "inf"
  else
    let (m, q, _) := Shortest.parts bits
    let n := hundredths m q
    sign ++ natText (n / 100) ++ "." ++ String.ofList (paddedDigits 2 (n % 100))

end OrderDesk.Text
