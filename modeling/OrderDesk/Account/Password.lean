/-
Passwords.

A password is never stored.  What is stored is a text made from the password and
fresh random bytes, against which a password can be checked later.  The services
only know that much about it: they work with any `PasswordScheme`.  The scheme in
use is `argon2`, whose texts name the algorithm and everything it needs:

    $argon2id$v=19$m=19456,t=2,p=1$SALT$DIGEST

A text that does not have this form, or asks for something that is not possible,
accepts no password.
-/
import OrderDesk.Digest.Argon2
import OrderDesk.Text.Base64
import OrderDesk.Text.Numeral
import OrderDesk.Text.Utf8

namespace OrderDesk

open OrderDesk.Digest
open OrderDesk.Text

/-- A way to store passwords. -/
structure PasswordScheme where
  /-- The text to store for a password, made with fresh random bytes. -/
  hash : List UInt8 → String → String
  /-- The stored text accepts the password. -/
  accepts : String → String → Bool

namespace Password

/-- A password has at least this many characters. -/
def minLength : Nat := 6

/-- The report about a password that is too short. -/
def tooShortMessage : String := "password must be at least 6 characters"

/-- A new password is long enough. -/
def isStrong (password : String) : Bool := minLength ≤ password.length

/-! ### Stored texts -/

/-- The cost of passwords that are stored now, and of texts that do not say otherwise. -/
def usual : Argon2.Params :=
  { variant := .id, version := .v19, memory := 19456, passes := 2, lanes := 1, size := 32,
    data := [] }

/-- The name of an algorithm. -/
def variantName : Argon2.Variant → String
  | .d => "argon2d"
  | .i => "argon2i"
  | .id => "argon2id"

/-- The number of a version. -/
def versionNumber : Argon2.Version → Nat
  | .v16 => 16
  | .v19 => 19

/-- A stored text, taken apart. -/
structure Stored where
  params : Argon2.Params
  salt : List UInt8
  digest : List UInt8
  deriving DecidableEq, Repr

/-- The stored text with these parts. -/
def Stored.text (s : Stored) : String :=
  let base64 (bytes : List UInt8) := String.ofList (Base64.encode Base64.standard bytes)
  "$" ++ variantName s.params.variant ++ "$v=" ++ natText (versionNumber s.params.version) ++
    "$m=" ++ natText s.params.memory ++ ",t=" ++ natText s.params.passes ++ ",p=" ++
    natText s.params.lanes ++ "$" ++ base64 s.salt ++ "$" ++ base64 s.digest

/-- The value of a numeral that fits thirty-two bits and has no needless zeros. -/
def decimal? (cs : List Char) : Option Nat :=
  if cs = [] ∨ ¬cs.all isDigit ∨ (cs.head? = some '0' ∧ cs.length ≠ 1) then none
  else
    match readNumeral (.unsigned 32) cs with
    | .ok n => some n.toNat
    | .error _ => none

/-- A character that may stand in a value. -/
def isValueChar (c : Char) : Bool :=
  isLetter c || isDigit c || c == '/' || c == '+' || c == '.' || c == '-'

/-- A character that may stand in a name. -/
def isNameChar (c : Char) : Bool := ('a' ≤ c && c ≤ 'z') || isDigit c || c == '-'

/-- A name and a value with an equals sign between them. -/
def pair? (cs : List Char) : Option (String × List Char) :=
  match splitAll '=' cs with
  | [name, value] =>
    if name ≠ [] ∧ name.length ≤ 32 ∧ name.all isNameChar ∧ value.length ≤ 64 ∧
        value.all isValueChar then
      some (String.ofList name, value)
    else none
  | _ => none

/-- At most `limit` bytes in base 64. -/
def bytes? (limit : Nat) (cs : List Char) : Option (List UInt8) :=
  match Base64.decode Base64.standard cs with
  | some bytes => if bytes.length ≤ limit then some bytes else none
  | none => none

/-- Take over one parameter. -/
def applyParam (p : Argon2.Params) (name : String) (value : List Char) : Option Argon2.Params :=
  match name with
  | "m" => (decimal? value).map fun n => { p with memory := n }
  | "t" => (decimal? value).map fun n => { p with passes := n }
  | "p" => (decimal? value).map fun n => { p with lanes := n }
  | "keyid" => (bytes? 8 value).map fun _ => p
  | "data" => (bytes? 32 value).map fun bytes => { p with data := bytes }
  | _ => none

/-- Take over parameters that are separated by commas. -/
def applyParams (p : Argon2.Params) (cs : List Char) : Option Argon2.Params :=
  if 127 < cs.length then none
  else
    (splitAll ',' cs).foldlM (fun p piece =>
      (pair? piece).bind fun (name, value) => applyParam p name value) p

/-- The algorithm with this name. -/
def variant? (cs : List Char) : Option Argon2.Variant :=
  [Argon2.Variant.d, .i, .id].find? fun v => (variantName v).toList = cs

/-- The version with this number. -/
def version? (cs : List Char) : Option Argon2.Version :=
  (decimal? cs).bind fun n => [Argon2.Version.v16, .v19].find? fun v => versionNumber v = n

/-- The digest can be computed. -/
def isPossible (s : Stored) : Bool :=
  8 ≤ s.params.memory && 8 * s.params.lanes ≤ s.params.memory && 1 ≤ s.params.passes &&
    1 ≤ s.params.lanes && s.params.lanes < Nat.pow 2 24 && 8 ≤ s.salt.length

/-- The salt and the digest of a stored text, together with what has been read before. -/
def readEnd (p : Argon2.Params) (salt digest : List Char) : Option Stored :=
  if salt.length < 4 ∨ 64 < salt.length then none
  else
    match Base64.decode Base64.standard salt, bytes? 64 digest with
    | some salt, some digest =>
      if digest.length < 10 then none
      else some { params := { p with size := digest.length }, salt := salt, digest := digest }
    | _, _ => none

/-- The pieces of a stored text behind the algorithm and the version. -/
def readParams (p : Argon2.Params) : List (List Char) → Option Stored
  | [salt, digest] => if salt.contains '=' then none else readEnd p salt digest
  | [params, salt, digest] =>
    if params.contains '=' then
      (applyParams p params).bind fun p => readEnd p salt digest
    else none
  | _ => none

/-- The pieces of a stored text behind the algorithm. -/
def readVersion (p : Argon2.Params) : List (List Char) → Option Stored
  | [] => none
  | piece :: rest =>
    if ['v', '='].isPrefixOf piece ∧ ¬piece.contains ',' then
      (version? (piece.drop 2)).bind fun v => readParams { p with version := v } rest
    else readParams p (piece :: rest)

/-- Take a stored text apart. -/
def Stored.parse (s : String) : Option Stored :=
  match splitAll '$' s.toList with
  | [] :: algorithm :: rest =>
    (variant? algorithm).bind fun v => readVersion { usual with variant := v } rest
  | _ => none

/-- The stored text accepts the password. -/
def accepts (stored password : String) : Bool :=
  match Stored.parse stored with
  | some s =>
    isPossible s && Argon2.digest s.params (Utf8.encode password) s.salt == s.digest
  | none => false

/-- The text to store for a password. -/
def hash (salt : List UInt8) (password : String) : String :=
  Stored.text
    { params := usual, salt := salt, digest := Argon2.digest usual (Utf8.encode password) salt }

/-- The scheme in use. -/
def argon2 : PasswordScheme := ⟨hash, accepts⟩

end Password

end OrderDesk
