/-
The characters of a request.

Methods and the names of headers are tokens.  The value of a header is a row of bytes,
of which only controls other than the tab are refused; whether it is text is another
question.
-/
import OrderDesk.Text.Ascii
import OrderDesk.Text.Utf8

namespace OrderDesk.Http

open OrderDesk.Text

/-- A character that may stand in a token. -/
def isTokenChar (c : Char) : Bool :=
  isLetter c || isDigit c || "!#$%&'*+-.^_`|~".contains c

/-- A text that is a token. -/
def isToken (s : String) : Bool := s ≠ "" && s.toList.all isTokenChar

/-- A byte that may stand in the value of a header. -/
def isHeaderValueByte (b : UInt8) : Bool := b == 9 || (32 ≤ b && b != 127)

/-- A byte of a header that counts as text. -/
def isHeaderText (b : UInt8) : Bool := b == 9 || (32 ≤ b && b < 127)

/-- The text of a header, if it is one. -/
def headerText? (value : List UInt8) : Option String :=
  if value.all isHeaderText then
    some (String.ofList (value.map fun b => Char.ofNat b.toNat))
  else none

end OrderDesk.Http
