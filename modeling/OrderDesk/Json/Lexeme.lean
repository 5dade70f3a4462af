/-
The lexemes of a JSON text.

A text is cut into lexemes from left to right, each character once.  Where the text
stops being JSON a `stray` lexeme ends the list: what follows it is never looked at,
and what stands before it still counts, because whoever reads the lexemes may find
something else to object to first.

The text may have arrived as bytes.  A sequence of bytes that is no character is
`none`; it may stand nowhere but in a string, and such a string has no text.
-/
import OrderDesk.Json.Number

namespace OrderDesk.Json

open OrderDesk.Text

/-- The parts of a JSON text. -/
inductive Lexeme where
  | openBrace
  | closeBrace
  | openBracket
  | closeBracket
  | colon
  | comma
  | null
  | bool (b : Bool)
  | number (n : Number)
  /-- A string; it has no text when it names half a character or holds broken bytes. -/
  | text (s : Option String)
  /-- Here the text stops being JSON. -/
  | stray
  deriving DecidableEq, Repr

/-- A string as far as it has been read. -/
structure StringPart where
  /-- The characters so far, last first, unless the string has no text. -/
  chars : Option (List Char)
  /-- The first half of a character named by two escapes. -/
  half : Option Nat
  deriving DecidableEq, Repr

namespace StringPart

/-- The empty string. -/
def empty : StringPart := ⟨some [], none⟩

/-- Nothing can be added to a string with half a character at its end. -/
def push (s : StringPart) (c : Option Char) : StringPart :=
  match s.half, s.chars, c with
  | none, some cs, some c => ⟨some (c :: cs), none⟩
  | _, _, _ => ⟨none, none⟩

/-- Add what a four digit escape names: a character, or half of one. -/
def pushUnit (s : StringPart) (n : Nat) : StringPart :=
  let high := 0xD800 ≤ n && n < 0xDC00
  let low := 0xDC00 ≤ n && n < 0xE000
  match s.half, s.chars with
  | none, some cs =>
    if high then ⟨some cs, some n⟩
    else if low then ⟨none, none⟩
    else ⟨some (Char.ofNat n :: cs), none⟩
  | some h, some cs =>
    if low then ⟨some (Char.ofNat ((h - 0xD800) * 0x400 + (n - 0xDC00) + 0x10000) :: cs), none⟩
    else ⟨none, none⟩
  | _, none => ⟨none, none⟩

/-- The lexeme of a string that ends here. -/
def lexeme (s : StringPart) : Lexeme :=
  match s.half, s.chars with
  | none, some cs => .text (some (String.ofList cs.reverse))
  | _, _ => .text none

end StringPart

/-- The part of a number that was read last. -/
inductive NumberPart where
  | minus
  | zero
  | whole
  | point
  | fraction
  | exponent
  | exponentSign
  | exponentDigits
  deriving DecidableEq, Repr

/-- A number may end after this part. -/
def NumberPart.isEnd : NumberPart → Bool
  | .zero | .whole | .fraction | .exponentDigits => true
  | _ => false

/-- Where the reader is in the text. -/
inductive Place where
  | between
  | word (rest : List Char) (lexeme : Lexeme)
  | string (s : StringPart)
  | escape (s : StringPart)
  | hex (s : StringPart) (digits value : Nat)
  /-- The digits of `n` are kept last first. -/
  | number (part : NumberPart) (n : Number)
  | dead
  deriving DecidableEq, Repr

/-- Put the digits in order. -/
def Number.inOrder (n : Number) : Number :=
  { n with
    whole := n.whole.reverse
    fraction := n.fraction.reverse
    exponent := n.exponent.map fun (down, ds) => (down, ds.reverse) }

/-- Begin a lexeme, or read one that is a single character. -/
def begin (c : Option Char) (done : List Lexeme) : Place × List Lexeme :=
  match c with
  | none => (.dead, .stray :: done)
  | some c =>
    let number (negative : Bool) (whole : List Char) : Number := ⟨negative, whole, [], none⟩
    if c = ' ' ∨ c = '\t' ∨ c = '\n' ∨ c = '\r' then (.between, done)
    else if c = '\x7b' then (.between, .openBrace :: done)
    else if c = '\x7d' then (.between, .closeBrace :: done)
    else if c = '[' then (.between, .openBracket :: done)
    else if c = ']' then (.between, .closeBracket :: done)
    else if c = ':' then (.between, .colon :: done)
    else if c = ',' then (.between, .comma :: done)
    else if c = '"' then (.string .empty, done)
    else if c = '-' then (.number .minus (number true []), done)
    else if c = '0' then (.number .zero (number false ['0']), done)
    else if isDigit c then (.number .whole (number false [c]), done)
    else if c = 'n' then (.word ['u', 'l', 'l'] .null, done)
    else if c = 't' then (.word ['r', 'u', 'e'] (.bool true), done)
    else if c = 'f' then (.word ['a', 'l', 's', 'e'] (.bool false), done)
    else (.dead, .stray :: done)

/-- Go on with a number, if the character belongs to it. -/
def extend (part : NumberPart) (n : Number) (c : Char) : Option (NumberPart × Number) :=
  let pushExponent (d : Char) : Number :=
    { n with exponent := n.exponent.map fun (down, ds) => (down, d :: ds) }
  match part with
  | .minus =>
    if c = '0' then some (.zero, { n with whole := ['0'] })
    else if isDigit c then some (.whole, { n with whole := [c] })
    else none
  | .zero | .whole =>
    if part = .whole ∧ isDigit c then some (.whole, { n with whole := c :: n.whole })
    else if c = '.' then some (.point, n)
    else if c = 'e' ∨ c = 'E' then some (.exponent, { n with exponent := some (false, []) })
    else none
  | .point => if isDigit c then some (.fraction, { n with fraction := [c] }) else none
  | .fraction =>
    if isDigit c then some (.fraction, { n with fraction := c :: n.fraction })
    else if c = 'e' ∨ c = 'E' then some (.exponent, { n with exponent := some (false, []) })
    else none
  | .exponent =>
    if c = '+' then some (.exponentSign, n)
    else if c = '-' then some (.exponentSign, { n with exponent := some (true, []) })
    else if isDigit c then some (.exponentDigits, pushExponent c)
    else none
  | .exponentSign | .exponentDigits =>
    if isDigit c then some (.exponentDigits, pushExponent c) else none

/-- Leave a number at a character that does not belong to it.  After a leading zero no digit
may follow. -/
def leave (part : NumberPart) (n : Number) (c : Option Char) (done : List Lexeme) :
    Place × List Lexeme :=
  if part.isEnd ∧ ¬(part = .zero ∧ c.any isDigit) then begin c (.number n.inOrder :: done)
  else (.dead, .stray :: done)

/-- The character that a one letter escape names. -/
def escaped? (c : Char) : Option Char :=
  if c = '"' ∨ c = '\\' ∨ c = '/' then some c
  else if c = 'b' then some '\x08'
  else if c = 'f' then some '\x0c'
  else if c = 'n' then some '\n'
  else if c = 'r' then some '\r'
  else if c = 't' then some '\t'
  else none

/-- Read one character.  Finished lexemes are added in front of `done`. -/
def step : Place × List Lexeme → Option Char → Place × List Lexeme
  | (.between, done), c => begin c done
  | (.dead, done), _ => (.dead, done)
  | (.word [] lexeme, done), c => begin c (lexeme :: done)
  | (.word (w :: rest) lexeme, done), c =>
    if c = some w then
      if rest = [] then (.between, lexeme :: done) else (.word rest lexeme, done)
    else (.dead, .stray :: done)
  | (.string s, done), c =>
    if c = some '"' then (.between, s.lexeme :: done)
    else if c = some '\\' then (.escape s, done)
    else if c.any (· < ' ') then (.dead, .stray :: done)
    else (.string (s.push c), done)
  | (.escape s, done), c =>
    if c = some 'u' then (.hex s 0 0, done)
    else match c.bind escaped? with
      | some e => (.string (s.push (some e)), done)
      | none => (.dead, .stray :: done)
  | (.hex s digits value, done), c =>
    match c.bind hexValue? with
    | some d =>
      if digits = 3 then (.string (s.pushUnit (value * 16 + d)), done)
      else (.hex s (digits + 1) (value * 16 + d), done)
    | none => (.dead, .stray :: done)
  | (.number part n, done), c =>
    match c.bind (extend part n) with
    | some (part, n) => (.number part n, done)
    | none => leave part n c done

/-- The lexemes at the end of the text. -/
def finish : Place × List Lexeme → List Lexeme
  | (.between, done) | (.dead, done) => done
  | (.number part n, done) =>
    if part.isEnd then .number n.inOrder :: done else .stray :: done
  | (_, done) => .stray :: done

/-- The lexemes of a text. -/
def lexemes (source : List (Option Char)) : List Lexeme :=
  (finish (source.foldl step (.between, []))).reverse

end OrderDesk.Json
