/-
Accounts.

A user registers with a name, an address and a password, signs in with name and
password to get a token, and is recognised by the token from then on.  Who fails to
sign in does not learn why; the log does.
-/
import OrderDesk.Account.Password
import OrderDesk.Bearer.Token
import OrderDesk.Store.Basic

namespace OrderDesk

/-- Why an account cannot be opened or used. -/
inductive AuthError where
  | invalidEmail (cause : EmailError)
  | invalidUsername (cause : UsernameError)
  | weakPassword (message : String)
  /-- The name or the address is taken. -/
  | userAlreadyExists
  /-- There is no such user, or the password is wrong. -/
  | invalidCredentials
  | token (cause : Bearer.TokenError)
  | store (cause : StoreError)
  /-- The password could not be made ready to be stored. -/
  | passwordHash
  deriving DecidableEq, Repr

/-- The text that reports the error. -/
def AuthError.message : AuthError → String
  | .invalidEmail cause => "invalid email: " ++ cause.message
  | .invalidUsername cause => "invalid username: " ++ cause.message
  | .weakPassword message => "password validation failed: " ++ message
  | .userAlreadyExists => "user already exists"
  | .invalidCredentials => "invalid credentials"
  | .token cause => cause.message
  | .store cause => "database error: " ++ cause.message
  | .passwordHash => "password hashing error"

/-- The texts of the error and of what lies beneath it, beginning with the innermost. -/
def AuthError.chain : AuthError → List String
  | .invalidEmail cause => [cause.message, AuthError.message (.invalidEmail cause)]
  | .invalidUsername cause => [cause.message, AuthError.message (.invalidUsername cause)]
  | .store cause => cause.chain ++ [AuthError.message (.store cause)]
  | e => [e.message]

/-- What the service of accounts works with. -/
structure Accounts (σ : Type) where
  users : CredentialStore σ
  passwords : PasswordScheme
  /-- The key that tokens are signed with. -/
  signingKey : String

namespace Accounts

variable {σ : Type}

/-! ### Registration -/

/-- What is asked for by somebody who registers. -/
structure Application where
  username : String
  email : String
  password : String
  deriving DecidableEq, Repr

/-- Judge an application: first the name, then the address, then the password.  Nothing is
stored yet. -/
def prepare (passwords : PasswordScheme) (salt : List UInt8) (a : Application) :
    Except AuthError NewUser :=
  match Username.parse a.username with
  | .error e => .error (.invalidUsername e)
  | .ok username =>
    match Email.parse a.email with
    | .error e => .error (.invalidEmail e)
    | .ok email =>
      if Password.isStrong a.password then
        .ok { username := username
              email := email
              passwordHash := passwords.hash salt a.password }
      else .error (.weakPassword Password.tooShortMessage)

/-- What a failure to store a new user means to the one who registers. -/
def ofCreateError : StoreError → AuthError
  | .conflict _ => .userAlreadyExists
  | e => .store e

/-- The entry for a new user. -/
def registeredEntry (id : UserId) : LogEntry :=
  ⟨.info, "user registered", [("user_id", id.text)]⟩

/-- Register a user, with fresh random bytes for the password. -/
def register (service : Accounts σ) (salt : List UInt8) (a : Application) :
    Action σ AuthError UserId := do
  let user ← Action.ofExcept (prepare service.passwords salt a)
  let id ← (service.users.create user).mapError ofCreateError
  Action.note (registeredEntry id)
  return id

/-! ### Signing in -/

/-- The user with this name, if there is one.  A text that is no name is nobody's. -/
def lookUp (service : Accounts σ) (username : String) : Action σ AuthError (Option User) :=
  match Username.parse username with
  | .error _ => Action.done none
  | .ok name => do
    match ← (service.users.findByUsername name).attempt with
    | .ok user => return some user
    | .error .notFound => return none
    | .error e => Action.fail (.store e)

/-- The entry for somebody who signed in. -/
def signedInEntry (id : UserId) : LogEntry := ⟨.info, "user signed in", [("user_id", id.text)]⟩

/-- The entry for somebody who is not known. -/
def unknownUserEntry (username : String) : LogEntry :=
  ⟨.warn, "login rejected", [("username", username), ("reason", "unknown user")]⟩

/-- The entry for somebody who does not know the password. -/
def wrongPasswordEntry (id : UserId) : LogEntry :=
  ⟨.warn, "login rejected", [("user_id", id.text), ("reason", "password mismatch")]⟩

/-- Issue a token.  The work is given up when the token would never expire. -/
def issue (service : Accounts σ) (now : Instant) (id : UserId) :
    Action σ AuthError Bearer.Issued :=
  match Bearer.issue service.signingKey id now with
  | some issued => Action.done issued
  | none => Action.abort

/-- Check name and password and issue a token. -/
def login (service : Accounts σ) (now : Instant) (username password : String) :
    Action σ AuthError Bearer.Issued := do
  match ← service.lookUp username with
  | none =>
    Action.note (unknownUserEntry username)
    Action.fail .invalidCredentials
  | some user =>
    if service.passwords.accepts user.passwordHash password then
      let issued ← service.issue now user.id
      Action.note (signedInEntry user.id)
      return issued
    else
      Action.note (wrongPasswordEntry user.id)
      Action.fail .invalidCredentials

/-! ### Tokens -/

/-- The user that a token is for, at the time `now`. -/
def identify (signingKey : String) (now : Instant) (token : String) : Except AuthError UserId :=
  (Bearer.validate signingKey token now).mapError .token

end Accounts

end OrderDesk
