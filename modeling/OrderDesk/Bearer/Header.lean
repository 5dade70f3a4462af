/-
The header of a token.

The header says how the token is signed.  It may say more, about the kind of token
and about the key, and what it says must be of the right type, but only the name of
the algorithm is ever used.
-/
import OrderDesk.Json.Reader

namespace OrderDesk.Bearer

open OrderDesk.Json

/-- The ways to sign a token that a header may name. -/
inductive Algorithm where
  | hs256
  | hs384
  | hs512
  | es256
  | es384
  | rs256
  | rs384
  | rs512
  | ps256
  | ps384
  | ps512
  | edDsa
  deriving DecidableEq, Repr

/-- Each algorithm under its name. -/
def algorithms : List (String × Algorithm) :=
  [("HS256", .hs256), ("HS384", .hs384), ("HS512", .hs512), ("ES256", .es256), ("ES384", .es384),
   ("RS256", .rs256), ("RS384", .rs384), ("RS512", .rs512), ("PS256", .ps256), ("PS384", .ps384),
   ("PS512", .ps512), ("EdDSA", .edDsa)]

/-! ### Lists and keys -/

/-- The texts of an array up to its closing bracket, the first of which stands at the head. -/
def readTextsFrom : List Lexeme → Except Refusal (List String)
  | .text (some s) :: .closeBracket :: _ => .ok [s]
  | .text (some s) :: .comma :: rest => (readTextsFrom rest).map (s :: ·)
  | _ => .error .malformed

/-- An array of texts. -/
def readTexts : Reader (List String)
  | .openBracket :: .closeBracket :: _ => .ok []
  | .openBracket :: rest => readTextsFrom rest
  | _ => .error .malformed

/-- A member of a key, as far as it matters. -/
inductive KeyPart where
  | text (s : String)
  | texts (ss : List String)
  | null
  | other
  deriving DecidableEq, Repr

/-- Read a member of a key. -/
def readKeyPart : Reader KeyPart
  | .text (some s) :: _ => .ok (.text s)
  | .null :: _ => .ok .null
  | ls =>
    match readTexts ls with
    | .ok ss => .ok (.texts ss)
    | .error _ => .ok .other

/-- The members of a key that describe it, whatever its type. -/
def keyTexts : List String := ["use", "kid", "x5u", "x5t", "x5t#S256"]

/-- The members of a key that are lists. -/
def keyLists : List String := ["key_ops", "x5c"]

/-- The names of algorithms that a key may be meant for. -/
def keyAlgorithms : List String :=
  algorithms.map Prod.fst ++ ["RSA1_5", "RSA-OAEP", "RSA-OAEP-256"]

/-- The curves that a key may lie on. -/
def curves : List String := ["P-256", "P-384", "P-521", "Ed25519"]

/-- The members that a key of each type must have as texts. -/
def keyTypes : List (String × List String) :=
  [("EC", ["crv", "x", "y"]), ("RSA", ["n", "e"]), ("oct", ["k"]), ("OKP", ["crv", "x"])]

/-- The record of everything that a key may hold. -/
def keyRecord : Record :=
  ⟨"Jwk", (keyTexts ++ keyLists ++ ["alg", "kty", "crv", "x", "y", "n", "e", "k"]).map .may⟩

/-- The members make up a key. -/
def isKey (seen : Members KeyPart) : Bool :=
  let text? (name : String) : Option String :=
    match seen.lookup name with
    | some (.text s) => some s
    | _ => none
  let absent (name : String) := [none, some KeyPart.null].contains (seen.lookup name)
  let isList (name : String) :=
    match seen.lookup name with
    | some (.texts _) => true
    | _ => false
  keyTexts.all (fun name => absent name || (text? name).isSome) &&
    keyLists.all (fun name => absent name || isList name) &&
    (absent "alg" || (text? "alg").any keyAlgorithms.contains) &&
    keyTypes.any (fun (kind, names) =>
      text? "kty" == some kind && names.all (fun name => (text? name).isSome) &&
        (!names.contains "crv" || (text? "crv").any curves.contains))

/-- A key nests at most this many levels. -/
def keyDepth : Nat := 126

/-- A key.  All of its members are kept until its type is known. -/
def readKey : Reader Unit
  | .openBrace :: rest =>
    if !canBeKept keyDepth 0 (.openBrace :: rest) then .error .malformed
    else match readRecord keyRecord (fun _ => readKeyPart) (.openBrace :: rest) with
    | .ok (seen, _) => if isKey seen then .ok () else .error .malformed
    | .error e => .error e
  | _ => .error .malformed

/-! ### The header -/

/-- A field of the header. -/
inductive HeaderPart where
  | algorithm (a : Algorithm)
  | described
  deriving DecidableEq, Repr

/-- Read the field of the header with this name. -/
def readHeaderPart (name : String) : Reader HeaderPart := fun ls =>
  match name with
  | "alg" => (readChoice algorithms ls).map .algorithm
  | "jwk" => (readOptional readKey ls).map fun _ => .described
  | "x5c" => (readOptional readTexts ls).map fun _ => .described
  | _ => (readOptional readText ls).map fun _ => .described

/-- The fields of the header. -/
def headerRecord : Record :=
  ⟨"Header",
    [.mayInObject "typ", .must "alg", .mayInObject "cty", .mayInObject "jku", .mayInObject "jwk",
     .mayInObject "kid", .mayInObject "x5u", .mayInObject "x5c", .mayInObject "x5t",
     .mayInObject "x5t#S256"]⟩

/-- The algorithm that a header names. -/
def readAlgorithm (source : List (Option Char)) : Option Algorithm :=
  match decodeRecord headerRecord readHeaderPart source with
  | .error _ => none
  | .ok seen =>
    match seen.lookup "alg" with
    | some (.algorithm a) => some a
    | _ => none

end OrderDesk.Bearer
