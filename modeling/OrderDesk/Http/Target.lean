/-
The target of a request.

A target is a path with perhaps a query, or a whole address with scheme and authority,
or an authority alone.  Only path and query matter; they are kept as bytes, with their
percent signs.
-/
import OrderDesk.Text.Ascii

namespace OrderDesk.Http

open OrderDesk.Text

/-- Where a request goes. -/
structure Target where
  path : List UInt8
  query : List UInt8
  deriving DecidableEq, Repr

namespace Target

/-- A target has at most this many bytes. -/
def maxBytes : Nat := 65534

/-! ### Path and query -/

/-- A byte that may stand in a path. -/
def isPathByte (b : UInt8) : Bool :=
  b == 0x21 || b == 0x22 || (0x24 ≤ b && b ≤ 0x3B) || b == 0x3D || (0x40 ≤ b && b ≤ 0x5F) ||
    0x61 ≤ b

/-- A byte that may stand in a query. -/
def isQueryByte (b : UInt8) : Bool :=
  b == 0x21 || (0x24 ≤ b && b ≤ 0x3B) || b == 0x3D || 0x3F ≤ b

/-- Read a path and a query.  What follows a `#` does not count, and an empty path is a slash. -/
def ofPath (bytes : List UInt8) : Option Target :=
  let bytes := ((cutAt (· == 0x23) bytes).map Prod.fst).getD bytes
  let (path, query) := (cutAt (· == 0x3F) bytes).getD (bytes, [])
  if path.all isPathByte ∧ query.all isQueryByte then
    some ⟨if path = [] then [0x2F] else path, query⟩
  else none

/-! ### Scheme and authority -/

/-- A byte as a character, which is right for ASCII. -/
def charOf (b : UInt8) : Char := Char.ofNat b.toNat

/-- A byte that may stand in a scheme. -/
def isSchemeByte (b : UInt8) : Bool :=
  b < 128 && (isLetter (charOf b) || isDigit (charOf b) || "+-.~".contains (charOf b))

/-- What follows the scheme and its `://`; nothing when there is no scheme.  A scheme of more
than 64 bytes is refused. -/
def afterScheme (bytes : List UInt8) : Except Unit (Option (List UInt8)) :=
  let name := bytes.takeWhile isSchemeByte
  match bytes.drop name.length with
  | 0x3A :: 0x2F :: 0x2F :: rest => if 64 < name.length then .error () else .ok (some rest)
  | _ => .ok none

/-- What has been seen of an authority.  Colons and percent signs are forgotten when they turn
out to belong to the user or to stand in brackets. -/
structure Seen where
  colons : Nat
  opened : Bool
  closed : Bool
  percent : Bool
  /-- The last byte was an `@`. -/
  atSign : Bool
  deriving DecidableEq, Repr

/-- A byte that may stand in an authority without further ado. -/
def isAuthorityByte (b : UInt8) : Bool :=
  b < 128 && (isLetter (charOf b) || isDigit (charOf b) || "!$&'()*+,-.;=_~".contains (charOf b))

/-- See one more byte. -/
def Seen.next (s : Seen) (b : UInt8) : Option Seen :=
  let s := { s with atSign := false }
  match charOf b with
  | ':' => if 8 ≤ s.colons then none else some { s with colons := s.colons + 1 }
  | '[' => if s.percent || s.opened then none else some { s with opened := true }
  | ']' =>
    if !s.opened || s.closed then none
    else some { s with closed := true, colons := 0, percent := false }
  | '@' => some { s with colons := 0, percent := false, atSign := true }
  | '%' => some { s with percent := true }
  | _ => if isAuthorityByte b then some s else none

/-- A byte that ends an authority. -/
def endsAuthority (b : UInt8) : Bool := b == 0x2F || b == 0x3F || b == 0x23

/-- The bytes are an authority. -/
def isAuthority (bytes : List UInt8) : Bool :=
  match bytes.foldlM Seen.next ⟨0, false, false, false, false⟩ with
  | some s => s.opened == s.closed && s.colons ≤ 1 && !s.atSign && !s.percent
  | none => false

/-- Read an address with scheme and authority, or an authority alone. -/
def ofAddress (bytes : List UInt8) : Option Target :=
  match afterScheme bytes with
  | .error _ => none
  | .ok scheme =>
    let rest := scheme.getD bytes
    let authority := rest.takeWhile fun b => !endsAuthority b
    let after := rest.drop authority.length
    if ¬isAuthority authority then none
    else if scheme.isSome then if authority = [] then none else ofPath after
    else if after = [] then some ⟨[], []⟩
    else none

/-- Read a target. -/
def parse (bytes : List UInt8) : Option Target :=
  if maxBytes < bytes.length then none
  else
    match bytes with
    | [] => none
    | 0x2F :: _ => ofPath bytes
    | [0x2A] => some ⟨[0x2A], []⟩
    | _ => ofAddress bytes

end Target

end OrderDesk.Http
