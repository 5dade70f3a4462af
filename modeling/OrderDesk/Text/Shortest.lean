/-
The shortest decimal of a floating point number.

Of all decimals that read back as the number, the one with the fewest digits is
written, and of those the nearest.  The number is a whole number of units of a power
of two; the decimals that read back as it are those between the middles to its two
neighbours, the middles included when the whole number is even.  All comparisons are
between exact fractions.
-/
import OrderDesk.Text.Numeral

namespace OrderDesk.Text.Shortest

/-- The decimals that read back as one number, times a common denominator. -/
structure Interval where
  low : Nat
  value : Nat
  high : Nat
  denominator : Nat
  closed : Bool
  deriving DecidableEq, Repr

/-- The interval of the number `m` times `2 ^ q`.  At a power of two the neighbour below is
twice as near. -/
def interval (m : Nat) (q : Int) (narrow : Bool) : Interval :=
  let unit := Nat.pow 2 (q - 2).toNat
  { low := (4 * m - if narrow then 1 else 2) * unit
    value := 4 * m * unit
    high := (4 * m + 2) * unit
    denominator := Nat.pow 2 (2 - q).toNat
    closed := m % 2 == 0 }

/-- The integer and power of two that make up the magnitude of a finite number. -/
def parts (bits : Nat) : Nat × Int × Bool :=
  let significand : Nat := bits % Nat.pow 2 52
  let e : Nat := bits / Nat.pow 2 52 % Nat.pow 2 11
  if e = 0 then (significand, -1074, false)
  else (Nat.pow 2 52 + significand, (e : Int) - 1075, significand == 0 && 1 < e)

/-- `d` times `10 ^ k` lies in the interval. -/
def Interval.holds (i : Interval) (d : Nat) (k : Int) : Bool :=
  let x := d * Nat.pow 10 k.toNat * i.denominator
  let scaled (n : Nat) := n * Nat.pow 10 (-k).toNat
  if i.closed then scaled i.low ≤ x && x ≤ scaled i.high
  else scaled i.low < x && x < scaled i.high

/-- The exponent of the first digit of a positive fraction. -/
def leadingExponent (numerator denominator : Nat) : Int :=
  if denominator ≤ numerator then ((natDigits (numerator / denominator)).length : Int) - 1
  else
    let shift := (List.range 400).find? fun j => denominator ≤ numerator * Nat.pow 10 j
    Int.negOfNat (shift.getD 400)

/-- The best decimal with `count` digits, if one lies in the interval. -/
def Interval.atLength (i : Interval) (e : Int) (count : Nat) : Option (Nat × Int) :=
  let k := e - count + 1
  let numerator := i.value * Nat.pow 10 (-k).toNat
  let denominator := i.denominator * Nat.pow 10 k.toNat
  let below := numerator / denominator
  let rest := numerator % denominator
  let belowHolds := i.holds below k
  let aboveHolds := i.holds (below + 1) k
  let belowNearer := 2 * rest < denominator || (2 * rest = denominator && below % 2 = 0)
  if belowHolds && (belowNearer || !aboveHolds) then some (below, k)
  else if aboveHolds then some (below + 1, k)
  else none

/-- The digits of the shortest decimal and the exponent of its first digit. -/
def digits (bits : Nat) : List Char × Int :=
  let (m, q, narrow) := parts bits
  if m = 0 then (['0'], 0)
  else
    let i := interval m q narrow
    let e := leadingExponent i.value i.denominator
    let found := (List.range 17).findSome? fun n => i.atLength e (n + 1)
    let (d, k) := found.getD (i.value / i.denominator, 0)
    let ds := natDigits d
    let short := (ds.reverse.dropWhile (· == '0')).reverse
    (short, k + ds.length - 1)

/-- Numbers whose first digit stands between these places are written without exponent. -/
def positionalLow : Int := -5

/-- See `positionalLow`. -/
def positionalHigh : Int := 15

/-- The text of a finite number.  A whole number keeps one place after the point. -/
def text (f : Float) : String :=
  let bits := f.toBits.toNat
  let sign := if bits < Nat.pow 2 63 then [] else ['-']
  let (ds, e) := digits (bits % Nat.pow 2 63)
  let body :=
    if positionalLow ≤ e ∧ e ≤ positionalHigh then
      if e < 0 then '0' :: '.' :: List.replicate (e.natAbs - 1) '0' ++ ds
      else
        let whole := e.toNat + 1
        let front := ds.take whole ++ List.replicate (whole - ds.length) '0'
        let back := ds.drop whole
        front ++ '.' :: (if back = [] then ['0'] else back)
    else
      let front := ds.take 1 ++ (if ds.length = 1 then [] else '.' :: ds.drop 1)
      front ++ ['e', if e < 0 then '-' else '+'] ++ natDigits e.natAbs
  String.ofList (sign ++ body)

end OrderDesk.Text.Shortest
