/-
Decimal numerals of bounded integers.

A numeral is an optional sign and at least one ASCII digit, nothing else.  It is
read from left to right, and the first thing wrong with it is reported: a digit
that takes the value out of range counts when it is met, so a number that is too
large already is reported as such even if something that is no digit follows.
-/
import OrderDesk.Text.Ascii

namespace OrderDesk.Text

/-! ### Writing -/

/-- The digit of a value below ten. -/
def digitOf (n : Nat) : Char := Char.ofNat (48 + n)

/-- The decimal digits of a natural number, most significant first. -/
def natDigits (n : Nat) : List Char :=
  if n < 10 then [digitOf n] else natDigits (n / 10) ++ [digitOf (n % 10)]
termination_by n
decreasing_by omega

/-- The decimal numeral of a natural number. -/
def natText (n : Nat) : String := String.ofList (natDigits n)

/-- The decimal digits of an integer, with a sign in front when it is negative. -/
def intDigits : Int → List Char
  | .ofNat n => natDigits n
  | .negSucc n => '-' :: natDigits (n + 1)

/-- The decimal numeral of an integer. -/
def intText (n : Int) : String := String.ofList (intDigits n)

/-- The digits of a number with zeros in front up to `width` places. -/
def paddedDigits (width n : Nat) : List Char :=
  let digits := natDigits n
  List.replicate (width - digits.length) '0' ++ digits

/-! ### Reading -/

/-- What can be wrong with a numeral. -/
inductive NumeralError where
  | empty
  | invalidDigit
  | tooLarge
  | tooSmall
  deriving DecidableEq, Repr

/-- The text that reports the fault. -/
def NumeralError.message : NumeralError → String
  | .empty => "cannot parse integer from empty string"
  | .invalidDigit => "invalid digit found in string"
  | .tooLarge => "number too large to fit in target type"
  | .tooSmall => "number too small to fit in target type"

/-- The integers from `low` to `high`. -/
structure IntRange where
  low : Int
  high : Int
  deriving DecidableEq, Repr

/-- The integers of 32 bits with a sign. -/
def IntRange.signed32 : IntRange := ⟨-2147483648, 2147483647⟩

/-- The integers of `bits` bits without a sign. -/
def IntRange.unsigned (bits : Nat) : IntRange := ⟨0, (Nat.pow 2 bits : Nat) - 1⟩

/-- Read digits after `value`, which stays at most `limit`. -/
def readUpTo (limit : Int) (value : Int) : List Char → Except NumeralError Int
  | [] => .ok value
  | c :: rest =>
    if isDigit c then
      let next := value * 10 + digitValue c
      if next ≤ limit then readUpTo limit next rest else .error .tooLarge
    else .error .invalidDigit

/-- Read digits after `value`, which stays at least `limit`. -/
def readDownTo (limit : Int) (value : Int) : List Char → Except NumeralError Int
  | [] => .ok value
  | c :: rest =>
    if isDigit c then
      let next := value * 10 - digitValue c
      if limit ≤ next then readDownTo limit next rest else .error .tooSmall
    else .error .invalidDigit

/-- Read a numeral of the range.  A minus sign belongs to a numeral only where the range
has negative numbers, and a sign alone is no numeral. -/
def readNumeral (range : IntRange) : List Char → Except NumeralError Int
  | [] => .error .empty
  | [c] => if c = '+' ∨ c = '-' then .error .invalidDigit else readUpTo range.high 0 [c]
  | c :: d :: rest =>
    if c = '+' then readUpTo range.high 0 (d :: rest)
    else if c = '-' ∧ range.low < 0 then readDownTo range.low 0 (d :: rest)
    else readUpTo range.high 0 (c :: d :: rest)

end OrderDesk.Text
