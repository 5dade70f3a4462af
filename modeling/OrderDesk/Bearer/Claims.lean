/-
The claims of a token.

A token claims to be for a user, and to have been issued and to expire at certain
seconds.  Other claims are ignored, but four of them have a meaning that is settled
elsewhere.  Each may stand there only once.  A token that is meant for a certain
audience is refused, because nobody here is that audience; a subject that is a list
or an object, and a start of validity that is a list or an object and not empty, are
refused because they cannot be read, and so is a list or an object in the place of an
audience or an issuer that cannot be kept until it is known what it is.
-/
import OrderDesk.Bearer.Header
import OrderDesk.Json.Writer

namespace OrderDesk.Bearer

open OrderDesk.Json
open OrderDesk.Text

/-- What a token says. -/
structure Claims where
  userId : Int32
  issuedAt : Int
  expiresAt : Int
  deriving DecidableEq, Repr

/-- The integers of 64 bits with a sign. -/
def signed64 : IntRange := ⟨-9223372036854775808, 9223372036854775807⟩

/-- The claims that a token must make. -/
def claimsRecord : Record := ⟨"Claims", [.must "user_id", .must "iat", .must "exp"]⟩

/-- Read the claim with this name. -/
def readClaim (name : String) : Reader Int :=
  if name = "user_id" then readInt .signed32 "i32" else readInt signed64 "i64"

/-- The claims that are settled elsewhere. -/
def registeredRecord : Record := ⟨"Registered", ["nbf", "sub", "iss", "aud"].map .may⟩

/-- A list or an object in a claim nests at most this many levels. -/
def claimDepth : Nat := 126

/-- Accept a list or an object that can be kept. -/
def readKept : Reader Unit := fun ls =>
  if canBeKept claimDepth 0 ls then .ok () else .error .malformed

/-- Refuse what a claim that is settled elsewhere must not be. -/
def readRegistered (name : String) : Reader Unit := fun ls =>
  match name, ls with
  | "aud", .text (some _) :: _ => .error .malformed
  | "aud", .openBracket :: rest =>
    match readTexts (.openBracket :: rest) with
    | .ok _ => .error .malformed
    | .error _ => readKept (.openBracket :: rest)
  | "aud", .openBrace :: rest | "iss", .openBrace :: rest => readKept (.openBrace :: rest)
  | "iss", .openBracket :: rest => readKept (.openBracket :: rest)
  | "sub", .openBracket :: _ | "sub", .openBrace :: _ => .error .malformed
  | "nbf", .openBracket :: .closeBracket :: _ | "nbf", .openBrace :: .closeBrace :: _ => .ok ()
  | "nbf", .openBracket :: _ | "nbf", .openBrace :: _ => .error .malformed
  | _, _ => .ok ()

/-- Read claims.  Only an object holds claims. -/
def Claims.decode (source : List (Option Char)) : Option Claims :=
  match (lexemes source).head?, decodeRecord claimsRecord readClaim source,
      decodeRecord registeredRecord readRegistered source with
  | some .openBrace, .ok seen, .ok _ =>
    match seen.lookup "user_id", seen.lookup "iat", seen.lookup "exp" with
    | some user, some iat, some exp => some ⟨Int32.ofInt user, iat, exp⟩
    | _, _, _ => none
  | _, _, _ => none

/-- Claims as JSON. -/
def Claims.encode (c : Claims) : String :=
  writeObject
    [("user_id", writeInt c.userId.toInt), ("iat", writeInt c.issuedAt),
     ("exp", writeInt c.expiresAt)]

end OrderDesk.Bearer
