/-
What the service answers when it cannot do what it is asked.

An answer tells the caller the kind of the error: a status, a code and a fixed
message.  Details are given only about what the caller has sent.  What went wrong
inside is written to the log and reported, but never told.
-/
import OrderDesk.Json.Writer
import OrderDesk.Service.Accounts
import OrderDesk.Service.Orders

namespace OrderDesk.Api

open OrderDesk.Json

/-- Why a request is not carried out. -/
inductive ApiError where
  /-- The request itself cannot be accepted. -/
  | validation (message : String)
  | auth (cause : AuthError)
  | order (cause : OrderError)
  /-- The caller does not say who is calling. -/
  | missingCredential
  /-- The caller says so in a form that is not understood. -/
  | malformedCredential
  | internal (message : String)
  deriving DecidableEq, Repr

/-- The kinds of errors that callers can tell apart. -/
inductive ErrorKind where
  | validation
  | missingCredential
  | malformedCredential
  | authenticationFailed
  | malformedToken
  | invalidSignature
  | tokenExpired
  | conflict
  | notFound
  | timeout
  | internal
  deriving DecidableEq, Repr

namespace ErrorKind

/-- The code in the answer. -/
def code : ErrorKind → String
  | .validation => "VALIDATION_ERROR"
  | .missingCredential => "MISSING_CREDENTIAL"
  | .malformedCredential => "MALFORMED_CREDENTIAL"
  | .authenticationFailed => "AUTHENTICATION_FAILED"
  | .malformedToken => "MALFORMED_TOKEN"
  | .invalidSignature => "INVALID_SIGNATURE"
  | .tokenExpired => "TOKEN_EXPIRED"
  | .conflict => "CONFLICT"
  | .notFound => "NOT_FOUND"
  | .timeout => "TIMEOUT"
  | .internal => "INTERNAL_ERROR"

/-- The status of the answer. -/
def status : ErrorKind → Nat
  | .validation => 400
  | .missingCredential | .malformedCredential | .authenticationFailed | .malformedToken
  | .invalidSignature | .tokenExpired => 401
  | .notFound => 404
  | .conflict => 409
  | .internal => 500
  | .timeout => 503

/-- The message in the answer. -/
def publicMessage : ErrorKind → String
  | .validation => "Invalid request"
  | .missingCredential => "Missing bearer token"
  | .malformedCredential => "Authorization header must be 'Bearer <token>'"
  | .authenticationFailed => "Invalid username or password"
  | .malformedToken => "Malformed token"
  | .invalidSignature => "Invalid token signature"
  | .tokenExpired => "Token expired"
  | .conflict => "Username or email already registered"
  | .notFound => "Order not found"
  | .timeout => "Request timed out, please retry"
  | .internal => "Internal server error"

/-- The fault lies with the service, not with the caller. -/
def isServerError (kind : ErrorKind) : Bool := 500 ≤ kind.status

end ErrorKind

/-- The kind of an error of a store. -/
def kindOfStore : StoreError → ErrorKind
  | .notFound => .notFound
  | .conflict _ => .conflict
  | .timeout _ _ => .timeout
  | .database _ | .dataCorruption _ => .internal

/-- The kind of an error with a token. -/
def kindOfToken : Bearer.TokenError → ErrorKind
  | .malformed => .malformedToken
  | .invalidSignature | .unexpectedAlgorithm => .invalidSignature
  | .expired => .tokenExpired
  | .signing _ => .internal

/-- The kind of an error with an account. -/
def kindOfAuth : AuthError → ErrorKind
  | .invalidEmail _ | .invalidUsername _ | .weakPassword _ => .validation
  | .invalidCredentials => .authenticationFailed
  | .userAlreadyExists => .conflict
  | .token cause => kindOfToken cause
  | .store cause => kindOfStore cause
  | .passwordHash => .internal

namespace ApiError

/-- The kind of an error. -/
def kind : ApiError → ErrorKind
  | .validation _ => .validation
  | .missingCredential => .missingCredential
  | .malformedCredential => .malformedCredential
  | .internal _ => .internal
  | .order cause => kindOfStore cause.cause
  | .auth cause => kindOfAuth cause

/-- The text that reports the error inside the service. -/
def message : ApiError → String
  | .validation text => "Validation error: " ++ text
  | .auth cause => "Auth error: " ++ cause.message
  | .order cause => "Order error: " ++ cause.message
  | .missingCredential => "Missing credential"
  | .malformedCredential => "Malformed credential"
  | .internal text => "Internal error: " ++ text

/-- What is told about the request of the caller. -/
def details : ApiError → Option String
  | .validation text => some text
  | .auth cause => if kindOfAuth cause = .validation then some cause.message else none
  | _ => none

/-- The texts of the error and of what lies beneath it, beginning with the innermost. -/
def chain : ApiError → List String
  | .auth cause => cause.chain ++ [ApiError.message (.auth cause)]
  | .order cause => cause.chain ++ [ApiError.message (.order cause)]
  | e => [e.message]

/-- The body of the answer. -/
def body (e : ApiError) : String :=
  writeObject <|
    [("error", writeText e.kind.publicMessage), ("code", writeText e.kind.code)] ++
      (e.details.map fun text => ("details", writeText text)).toList

/-- What is written to the log. -/
def entry (e : ApiError) : LogEntry :=
  let fields := [("error", e.message), ("code", e.kind.code)]
  if e.kind.isServerError then ⟨.error, "Request error", fields⟩
  else ⟨.debug, "Request rejected", fields⟩

end ApiError

/-- What is reported about a request that failed through the fault of the service. -/
structure Report where
  /-- The texts of the error, beginning with the innermost. -/
  errors : List String
  requestId : String
  /-- The number of the caller, if it was known. -/
  user : Option String
  deriving DecidableEq, Repr

/-- The report about an error, if there is to be one. -/
def ApiError.report (e : ApiError) (requestId : String) (user : Option UserId) : Option Report :=
  if e.kind.isServerError then some ⟨e.chain, requestId, user.map UserId.text⟩ else none

end OrderDesk.Api
