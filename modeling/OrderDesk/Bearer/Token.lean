/-
Signed tokens.

A token is a header, claims and a signature, each in base 64, with points between
them.  The signature is the keyed digest of everything before it, so only who has
the key can make a token, and a token carries all that is needed to check it: it is
not stored anywhere.  It is valid for twelve hours, counted in whole seconds.
-/
import OrderDesk.Bearer.Claims
import OrderDesk.Digest.Hmac
import OrderDesk.Identifier
import OrderDesk.Text.Base64
import OrderDesk.Time.Instant

namespace OrderDesk.Bearer

open OrderDesk.Digest
open OrderDesk.Text

/-- What can be wrong with a token. -/
inductive TokenError where
  /-- Not a token, or one that lacks a claim. -/
  | malformed
  | invalidSignature
  /-- Signed in a way that is not accepted here. -/
  | unexpectedAlgorithm
  /-- The signature is right, but the time is over. -/
  | expired
  /-- A new token could not be made. -/
  | signing (reason : String)
  deriving DecidableEq, Repr

/-- The text that reports the fault. -/
def TokenError.message : TokenError → String
  | .malformed => "malformed token"
  | .invalidSignature => "invalid token signature"
  | .unexpectedAlgorithm => "unexpected signing algorithm"
  | .expired => "token expired"
  | .signing reason => "failed to sign token: " ++ reason

/-- A new token and the time at which it expires. -/
structure Issued where
  token : String
  expiresAt : Instant
  deriving DecidableEq, Repr

/-- A token is valid for twelve hours. -/
def lifetimeSeconds : Nat := 43200

/-- The header of every token that is issued here. -/
def issuedHeader : String := Json.writeObject
  [("typ", Json.writeText "JWT"), ("alg", Json.writeText "HS256")]

/-- A text in base 64. -/
def encodePart (s : String) : List Char := Base64.encode Base64.urlSafe (Utf8.encode s)

/-- The text that a part holds, as it arrived. -/
def decodePart (part : List Char) : Option (List (Option Char)) :=
  (Base64.decode Base64.urlSafe part).map Utf8.decode

/-- The signature of a text. -/
def signature (key : String) (message : List Char) : List Char :=
  Base64.encode Base64.urlSafe
    (hmacSha256 (Utf8.encode key) (Utf8.encode (String.ofList message)))

/-- A token with these claims. -/
def sign (key : String) (claims : Claims) : String :=
  let message := encodePart issuedHeader ++ '.' :: encodePart claims.encode
  String.ofList (message ++ '.' :: signature key message)

/-- A token for a user, issued at `now`.  There is none when the time at which it would expire
cannot be expressed. -/
def issue (key : String) (user : UserId) (now : Instant) : Option Issued :=
  (now.after? lifetimeSeconds 0).map fun expiresAt =>
    { token := sign key ⟨user.value, now.seconds, expiresAt.seconds⟩
      expiresAt := expiresAt }

/-- Read the claims of a token whose signature is right. -/
def verify (key : String) (token : String) : Except TokenError Claims :=
  match splitAll '.' token.toList with
  | [header, payload, given] =>
    match (decodePart header).bind readAlgorithm with
    | none => .error .malformed
    | some .hs256 =>
      if given = signature key (header ++ '.' :: payload) then
        match (decodePart payload).bind Claims.decode with
        | some claims => .ok claims
        | none => .error .malformed
      else .error .invalidSignature
    | some _ => .error .unexpectedAlgorithm
  | _ => .error .malformed

/-- The user that a token is for, at the time `now`. -/
def validate (key : String) (token : String) (now : Instant) : Except TokenError UserId :=
  match verify key token with
  | .error e => .error e
  | .ok claims =>
    if claims.expiresAt ≤ now.seconds then .error .expired else .ok ⟨claims.userId⟩

end OrderDesk.Bearer
