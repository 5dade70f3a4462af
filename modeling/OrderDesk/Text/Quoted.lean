/-
Quoting a text inside a message.

A text that came from outside is repeated in a message between quotes, so that its
ends and its invisible characters can be seen.  The quote itself and the backslash
get a backslash in front, four controls have a short name, and every other character
without a shape of its own is written by its number.
-/
import OrderDesk.Text.Ascii
import OrderDesk.Text.Printable

namespace OrderDesk.Text

/-- The hexadecimal digits of a number without leading zeros. -/
def hexDigits (n : Nat) : List Char :=
  if n < 16 then [hexDigit n] else hexDigits (n / 16) ++ [hexDigit (n % 16)]
termination_by n
decreasing_by omega

/-- How one character stands between two `quote` characters. -/
def quotedChar (quote c : Char) : List Char :=
  if c = '\x00' then ['\\', '0']
  else if c = '\t' then ['\\', 't']
  else if c = '\n' then ['\\', 'n']
  else if c = '\r' then ['\\', 'r']
  else if c = '\\' ∨ c = quote then ['\\', c]
  else if isPrintable c then [c]
  else ['\\', 'u', '\x7b'] ++ hexDigits c.toNat ++ ['\x7d']

/-- The text between double quotes. -/
def quoted (s : String) : String :=
  String.ofList ('"' :: s.toList.flatMap (quotedChar '"') ++ ['"'])

/-- One character between single quotes. -/
def quotedSingle (c : Char) : String :=
  String.ofList ('\'' :: quotedChar '\'' c ++ ['\''])

end OrderDesk.Text
