/-
Addresses of resources.

An address begins with a scheme.  What follows is an authority, which names a host
and perhaps a user, a password and a port, then a path and a query.  A few schemes
are special: they always have a host, and a backslash counts as a slash.  For other
schemes the authority may be missing, and then the path may be any text.

Names are kept as they are written, with their percent signs.
-/
import OrderDesk.Net.Address
import OrderDesk.Url.Percent

namespace OrderDesk.Url

open OrderDesk.Text

/-- The address of a resource. -/
structure Address where
  scheme : String
  username : String
  password : Option String
  host : Option String
  /-- The port, unless it is the usual one of the scheme. -/
  port : Option Nat
  path : String
  query : String
  deriving DecidableEq, Repr

/-- Why a text is no address. -/
inductive AddressError where
  /-- There is no scheme. -/
  | relative
  | emptyHost
  | invalidPort
  | invalidIpv6
  | invalidHostCharacter
  deriving DecidableEq, Repr

/-- The text that reports the fault. -/
def AddressError.message : AddressError → String
  | .relative => "relative URL without a base"
  | .emptyHost => "empty host"
  | .invalidPort => "invalid port number"
  | .invalidIpv6 => "invalid IPv6 address"
  | .invalidHostCharacter => "invalid domain character"

/-! ### The scheme -/

/-- The special schemes and their usual ports. -/
def specialSchemes : List (String × Option Nat) :=
  [("http", some 80), ("https", some 443), ("ws", some 80), ("wss", some 443), ("ftp", some 21),
   ("file", none)]

/-- A character that may stand in a scheme. -/
def isSchemeChar (c : Char) : Bool := isLetter c || isDigit c || c == '+' || c == '-' || c == '.'

/-- The scheme, in small letters, and what follows its colon. -/
def scheme? (cs : List Char) : Option (String × List Char) :=
  match cutAt (· == ':') cs with
  | some (name, rest) =>
    if name.head?.any isLetter ∧ name.all isSchemeChar then
      some (String.ofList (name.map lowerAscii), rest)
    else none
  | none => none

/-! ### The authority -/

/-- A character that ends the authority. -/
def endsAuthority (special : Bool) (c : Char) : Bool :=
  c == '/' || c == '?' || c == '#' || (special && c == '\\')

/-- The host, up to a colon that does not stand in brackets, and what follows it. -/
def splitHost (inBrackets : Bool) : List Char → List Char × List Char
  | [] => ([], [])
  | c :: rest =>
    if c = ':' ∧ ¬inBrackets then ([], c :: rest)
    else
      let (host, rest) := splitHost (c == '[' || (c != ']' && inBrackets)) rest
      (c :: host, rest)

/-- A character that may not stand in a host. -/
def isForbiddenInHost (special : Bool) (c : Char) : Bool :=
  "\x00\t\n\r #/:<>?@[\\]^|".contains c ||
    (special && (c < ' ' || c == '%' || c == '\x7f'))

/-- The host that a name without brackets stands for.  Special schemes have hosts whose names are
compared without regard to case. -/
def namedHost (special : Bool) (cs : List Char) : Except AddressError String :=
  let shown :=
    if special then
      lowerAsciiText (Utf8.decodeLossy (percentDecode (Utf8.encode (String.ofList cs))))
    else String.ofList cs
  if shown.toList.any (isForbiddenInHost special) then .error .invalidHostCharacter
  else .ok (if special then shown else encodeControls shown)

/-- Read a host. -/
def host? (special : Bool) (cs : List Char) : Except AddressError (Option String) :=
  match cs with
  | [] => if special then .error .emptyHost else .ok none
  | '[' :: rest =>
    if rest.getLast? = some ']' then
      match IpAddress.v6Groups? rest.dropLast with
      | some groups => .ok (some ("[" ++ IpAddress.shortGroupsText groups.toList ++ "]"))
      | none => .error .invalidIpv6
    else .error .invalidIpv6
  | _ => (namedHost special cs).map some

/-- Read what stands behind the host: a colon and a port, or nothing. -/
def port? (usual : Option Nat) (cs : List Char) : Except AddressError (Option Nat) :=
  let digits := cs.drop 1
  if digits = [] then .ok none
  else if digits.all isDigit then
    match readNumeral (.unsigned 16) digits with
    | .ok n => .ok (if usual = some n.toNat then none else some n.toNat)
    | .error _ => .error .invalidPort
  else .error .invalidPort

/-- The user and the password in front of the last `@`, and what stands behind it. -/
def splitUser (cs : List Char) : Option (List Char) × List Char :=
  match cutAt (· == '@') cs.reverse with
  | some (after, before) => (some before.reverse, after.reverse)
  | none => (none, cs)

/-! ### The path -/

/-- A part of a path that stands for the part itself. -/
def isSingleDot (part : List Char) : Bool :=
  ["." , "%2e"].contains (String.ofList (part.map lowerAscii))

/-- A part of a path that takes back the part before it. -/
def isDoubleDot (part : List Char) : Bool :=
  ["..", ".%2e", "%2e.", "%2e%2e"].contains (String.ofList (part.map lowerAscii))

/-- Carry out the dots in the parts of a path.  The parts in front, last first, are `done`. -/
def resolveDots (done : List (List Char)) : List (List Char) → List (List Char)
  | [] => done.reverse
  | [part] =>
    if isDoubleDot part then ([] :: done.drop 1).reverse
    else if isSingleDot part then ([] :: done).reverse
    else (part :: done).reverse
  | part :: rest =>
    if isDoubleDot part then resolveDots (done.drop 1) rest
    else if isSingleDot part then resolveDots done rest
    else resolveDots (part :: done) rest

/-- A path that begins with a slash, without its dots. -/
def pathText (special : Bool) (cs : List Char) : String :=
  let cs := if special then cs.map fun c => if c = '\\' then '/' else c else cs
  let parts := resolveDots [] (splitAll '/' (cs.drop 1))
  String.ofList (parts.flatMap fun part => '/' :: part)

/-! ### The whole address -/

/-- Cut off a query. -/
def splitQuery (cs : List Char) : List Char × List Char :=
  (cutAt (· == '?') cs).getD (cs, [])

/-- The user and the password, which is not there when it is empty. -/
def splitPassword (user : List Char) : List Char × Option String :=
  match cutAt (· == ':') user with
  | some (name, secret) => (name, if secret = [] then none else some (String.ofList secret))
  | none => (user, none)

/-- Read what follows the slashes in front of an authority.  Where there is a user, a password or
a port, there has to be a host. -/
def readAuthority (scheme : String) (special : Bool) (cs : List Char) :
    Except AddressError Address := do
  let authority := cs.takeWhile fun c => !endsAuthority special c
  let after := cs.dropWhile fun c => !endsAuthority special c
  let (user, place) := splitUser authority
  let (name, rest) := splitHost false place
  let (username, password) := splitPassword (user.getD [])
  let needsHost := (user = some [] ∧ place = [] ∧ after ≠ []) ∨ username ≠ [] ∨ password.isSome ∨
    rest ≠ []
  if name = [] ∧ needsHost then throw .emptyHost
  let host ← host? special name
  let port ← port? (specialSchemes.lookup scheme).join rest
  let (path, query) := splitQuery after
  return { scheme := scheme
           username := String.ofList username
           password := password
           host := host
           port := port
           path := if special || path ≠ [] then pathText special path else ""
           query := String.ofList query }

/-- Read the address of a file, which has a host at most, and mostly not even that. -/
def readFile (cs : List Char) : Except AddressError Address := do
  let isSlash (c : Char) := c == '/' || c == '\\'
  let (name, after) := match cs with
    | a :: b :: rest =>
      if isSlash a && isSlash b then
        (rest.takeWhile fun c => !endsAuthority true c,
          rest.dropWhile fun c => !endsAuthority true c)
      else ([], cs)
    | _ => ([], cs)
  let host ← if name = [] then .ok none else host? true name
  let (path, query) := splitQuery after
  return { scheme := "file"
           username := ""
           password := none
           host := host
           port := none
           path := pathText true (if path.head?.any isSlash then path else '/' :: path)
           query := String.ofList query }

/-- Read an address without an authority. -/
def readPath (scheme : String) (cs : List Char) : Address :=
  let (path, query) := splitQuery cs
  { scheme := scheme
    username := ""
    password := none
    host := none
    port := none
    path := if path.head? = some '/' then pathText false path else String.ofList path
    query := String.ofList query }

/-- Read an address.  Controls and blanks around it, tabs and line ends in it, and everything
from the first `#` on do not count. -/
def Address.parse (s : String) : Except AddressError Address :=
  let inner := ((s.toList.dropWhile (· ≤ ' ')).reverse.dropWhile (· ≤ ' ')).reverse
  let cs := inner.filter fun c => c != '\t' && c != '\n' && c != '\r'
  match scheme? cs with
  | none => .error .relative
  | some (scheme, rest) =>
    let rest := ((cutAt (· == '#') rest).map Prod.fst).getD rest
    if scheme = "file" then readFile rest
    else if (specialSchemes.lookup scheme).isSome then
      readAuthority scheme true (rest.dropWhile fun c => c == '/' || c == '\\')
    else
      match rest with
      | '/' :: '/' :: rest => readAuthority scheme false rest
      | _ => .ok (readPath scheme rest)

end OrderDesk.Url
