/-
Percent signs in addresses.

A byte may be written as a percent sign and two hexadecimal digits.  A percent sign
that is followed by anything else stands for itself.  In the fields of a form, which
are separated by ampersands, a plus sign stands for a blank.
-/
import OrderDesk.Text.Ascii
import OrderDesk.Text.Utf8

namespace OrderDesk.Url

open OrderDesk.Text

/-- The value of a byte that is a hexadecimal digit. -/
def hexByte? (b : UInt8) : Option Nat := hexValue? (Char.ofNat b.toNat)

/-- The byte that two hexadecimal digits spell. -/
def escaped? (high low : UInt8) : Option UInt8 :=
  match hexByte? high, hexByte? low with
  | some h, some l => some (UInt8.ofNat (16 * h + l))
  | _, _ => none

/-- Replace percent signs and the digits behind them by the bytes they stand for. -/
def percentDecode : List UInt8 → List UInt8
  | 0x25 :: high :: low :: rest =>
    match escaped? high low with
    | some b => b :: percentDecode rest
    | none => 0x25 :: percentDecode (high :: low :: rest)
  | b :: rest => b :: percentDecode rest
  | [] => []

/-- The text that a text with percent signs stands for, if it is one. -/
def percentText? (s : String) : Option String :=
  Utf8.decode? (percentDecode (Utf8.encode s))

/-- A byte that is not written as it is anywhere in an address. -/
def isControlByte (b : UInt8) : Bool := b < 0x20 || 0x7F ≤ b

/-- A byte as it is written: a percent sign and two capital digits in place of a control. -/
def encodedByte (b : UInt8) : List Char :=
  if isControlByte b then '%' :: ((hexText [b]).toList.map Char.toUpper)
  else [Char.ofNat b.toNat]

/-- A text without controls and characters outside ASCII, which are written by their bytes. -/
def encodeControls (s : String) : String := String.ofList ((Utf8.encode s).flatMap encodedByte)

/-- The text of a name or a value in a form.  Bytes that are no text are replaced. -/
def formText (bytes : List UInt8) : String :=
  Utf8.decodeLossy (percentDecode (bytes.map fun b => if b = 0x2B then 0x20 else b))

/-- A name and its value, which is empty when there is no equals sign. -/
def formPair (bytes : List UInt8) : String × String :=
  match cutAt (· == 0x3D) bytes with
  | some (name, value) => (formText name, formText value)
  | none => (formText bytes, "")

/-- The names and values of a form. -/
def formPairs (bytes : List UInt8) : List (String × String) :=
  ((splitAll 0x26 bytes).filter fun piece => piece ≠ []).map formPair

end OrderDesk.Url
