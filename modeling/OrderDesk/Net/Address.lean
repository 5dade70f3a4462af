/-
Addresses of machines.

An address has either four bytes, written as decimal numbers with points, or eight
groups of sixteen bits, written in hexadecimal with colons.  Of the second kind there
are many spellings.  The longest run of zero groups may be left out, and the last two
groups may be written like an address of the first kind.  All spellings are read, and
one of them is written.
-/
import OrderDesk.Text.Numeral

namespace OrderDesk

open OrderDesk.Text

/-- The address of a machine. -/
inductive IpAddress where
  | v4 (bytes : Vector UInt8 4)
  | v6 (groups : Vector UInt16 8)
  deriving DecidableEq, Repr

namespace IpAddress

/-! ### Reading -/

/-- A decimal number below 256 without needless zeros. -/
def byte? (cs : List Char) : Option UInt8 :=
  if cs = [] ∨ 3 < cs.length ∨ ¬cs.all isDigit ∨ (cs.head? = some '0' ∧ cs.length ≠ 1) then none
  else
    let n := cs.foldl (fun n c => 10 * n + digitValue c) 0
    if n < 256 then some (UInt8.ofNat n) else none

/-- Four bytes with points between them. -/
def v4Bytes? (cs : List Char) : Option (Vector UInt8 4) :=
  match (splitAll '.' cs).mapM byte? with
  | some [a, b, c, d] => some #v[a, b, c, d]
  | _ => none

/-- One to four hexadecimal digits. -/
def group? (cs : List Char) : Option UInt16 :=
  if cs = [] ∨ 4 < cs.length then none
  else
    (cs.foldlM (fun n c => (hexValue? c).map fun d => 16 * n + d) 0).map UInt16.ofNat

/-- The two groups that four bytes make. -/
def groupsOfBytes (bytes : Vector UInt8 4) : List UInt16 :=
  [UInt16.ofNat (256 * bytes[0].toNat + bytes[1].toNat),
   UInt16.ofNat (256 * bytes[2].toNat + bytes[3].toNat)]

/-- Groups with colons between them, of which the last may be four bytes with points. -/
def groupsOfPieces? : List (List Char) → Option (List UInt16)
  | [] => some []
  | [piece] =>
    match v4Bytes? piece with
    | some bytes => some (groupsOfBytes bytes)
    | none => (group? piece).map fun g => [g]
  | piece :: rest =>
    match group? piece, groupsOfPieces? rest with
    | some g, some gs => some (g :: gs)
    | _, _ => none

/-- Groups with colons between them, or nothing at all. -/
def groups? (cs : List Char) : Option (List UInt16) :=
  if cs = [] then some [] else groupsOfPieces? (splitAll ':' cs)

/-- What stands before and after the first two colons in a row. -/
def cutAtGap : List Char → Option (List Char × List Char)
  | ':' :: ':' :: rest => some ([], rest)
  | c :: rest => (cutAtGap rest).map fun (before, after) => (c :: before, after)
  | [] => none

/-- Eight groups in a row. -/
def ofGroups? (gs : List UInt16) : Option (Vector UInt16 8) :=
  if h : gs.length = 8 then some ⟨gs.toArray, by simpa using h⟩ else none

/-- Eight groups, of which a run of zeros may be left out.  At least one has to be left out
where two colons stand, and four bytes may only stand at the end. -/
def v6Groups? (cs : List Char) : Option (Vector UInt16 8) :=
  match cutAtGap cs with
  | none => (groups? cs).bind ofGroups?
  | some (before, after) =>
    if before.contains '.' then none
    else
      match groups? before, groups? after with
      | some left, some right =>
        if left.length + right.length ≤ 7 then
          ofGroups? (left ++ List.replicate (8 - left.length - right.length) 0 ++ right)
        else none
      | _, _ => none

/-- Read an address. -/
def parse? (s : String) : Option IpAddress :=
  match v4Bytes? s.toList with
  | some bytes => some (.v4 bytes)
  | none => (v6Groups? s.toList).map .v6

/-- The report about a text that is no address. -/
def invalidMessage : String := "invalid IP address syntax"

/-! ### Writing -/

/-- Four bytes with points between them. -/
def v4Text (bytes : List UInt8) : String :=
  String.intercalate "." (bytes.map fun b => natText b.toNat)

/-- The hexadecimal digits of a number without leading zeros. -/
def hexNumeral (n : Nat) : List Char :=
  if n < 16 then [hexDigit n] else hexNumeral (n / 16) ++ [hexDigit (n % 16)]
termination_by n
decreasing_by omega

/-- Groups with colons between them. -/
def groupsText (gs : List UInt16) : String :=
  String.intercalate ":" (gs.map fun g => String.ofList (hexNumeral g.toNat))

/-- The start and the length of the longest run of zeros from position `at'` on; of several
runs of that length the first.  `best` is the longest run before, and a run of `open'` zeros
ends just before `at'`. -/
def longestZeros (best : Nat × Nat) (open' at' : Nat) : List UInt16 → Nat × Nat
  | [] => best
  | g :: rest =>
    if g = 0 then
      let run := (at' - open', open' + 1)
      longestZeros (if best.2 < run.2 then run else best) (open' + 1) (at' + 1) rest
    else longestZeros best 0 (at' + 1) rest

/-- Groups with colons between them.  The longest run of two or more zeros is left out. -/
def shortGroupsText (gs : List UInt16) : String :=
  let (start, length) := longestZeros (0, 0) 0 0 gs
  if 1 < length then groupsText (gs.take start) ++ "::" ++ groupsText (gs.drop (start + length))
  else groupsText gs

/-- The two bytes of a group. -/
def bytesOfGroup (g : UInt16) : List UInt8 :=
  [UInt8.ofNat (g.toNat / 256), UInt8.ofNat (g.toNat % 256)]

/-- Eight groups.  An address of the first kind in the guise of the second is written with
points. -/
def v6Text (gs : List UInt16) : String :=
  match gs with
  | [0, 0, 0, 0, 0, 0xFFFF, high, low] =>
    "::ffff:" ++ v4Text (bytesOfGroup high ++ bytesOfGroup low)
  | _ => shortGroupsText gs

/-- The text of an address. -/
def text : IpAddress → String
  | .v4 bytes => v4Text bytes.toList
  | .v6 groups => v6Text groups.toList

end IpAddress

/-- A machine and one of its ports. -/
structure SocketAddress where
  host : IpAddress
  port : Nat
  deriving DecidableEq, Repr

/-- The text of an address with a port. -/
def SocketAddress.text (a : SocketAddress) : String :=
  match a.host with
  | .v4 _ => a.host.text ++ ":" ++ natText a.port
  | .v6 _ => "[" ++ a.host.text ++ "]:" ++ natText a.port

end OrderDesk
