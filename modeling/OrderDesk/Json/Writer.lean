/-
Writing JSON texts.

Texts are written without blanks.  In a string only the quote, the backslash and the
controls are escaped, five controls by a letter and the others by four hexadecimal
digits; every other character stands for itself.
-/
import OrderDesk.Text.Numeral

namespace OrderDesk.Json

open OrderDesk.Text

/-- How one character is written in a string. -/
def escapedChar (c : Char) : List Char :=
  if c = '"' then ['\\', '"']
  else if c = '\\' then ['\\', '\\']
  else if c = '\x08' then ['\\', 'b']
  else if c = '\t' then ['\\', 't']
  else if c = '\n' then ['\\', 'n']
  else if c = '\x0c' then ['\\', 'f']
  else if c = '\r' then ['\\', 'r']
  else if c < ' ' then ['\\', 'u', '0', '0', hexDigit (c.toNat / 16), hexDigit (c.toNat % 16)]
  else [c]

/-- A string. -/
def writeText (s : String) : String :=
  String.ofList ('"' :: s.toList.flatMap escapedChar ++ ['"'])

/-- An integer. -/
def writeInt (n : Int) : String := intText n

/-- An object with these members, whose values are written already. -/
def writeObject (members : List (String × String)) : String :=
  "\x7b" ++ String.intercalate "," (members.map fun (name, value) => writeText name ++ ":" ++ value)
    ++ "\x7d"

/-- An array of these elements, which are written already. -/
def writeArray (elements : List String) : String := "[" ++ String.intercalate "," elements ++ "]"

end OrderDesk.Json
