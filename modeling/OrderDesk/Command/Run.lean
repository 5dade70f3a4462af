/-
Carrying out the commands of the operator.

Each command loads only the settings it needs.  A token that is issued here is accepted
by a server with the same key, and the other way round.
-/
import OrderDesk.Bearer.Token
import OrderDesk.Command.Basic
import OrderDesk.Migration.Session
import OrderDesk.Settings.Server
import OrderDesk.Text.Blank
import OrderDesk.Time.Calendar

namespace OrderDesk.Command

open OrderDesk.Text

/-- Why a command fails. -/
inductive Failure where
  | settings (cause : SettingsError)
  | database (cause : DatabaseError)
  | migration (cause : Migration.Failure)
  | token (cause : Bearer.TokenError)
  deriving DecidableEq, Repr

/-- The text that reports the failure. -/
def Failure.message : Failure → String
  | .settings cause => "Configuration error: " ++ cause.message
  | .database cause => "Database error: " ++ cause.message
  | .migration cause => "Migration error: " ++ cause.message
  | .token cause => "Token error: " ++ cause.message

/-- What a command needs from its surroundings. -/
structure Surroundings (δ : Type) where
  settings : Lookup
  /-- What the signing key is judged by. -/
  gauge : Secret.Gauge := .plain
  now : Instant
  /-- The account that runs the command. -/
  account : String
  connect : ConnectOptions → Action δ DatabaseError Unit
  session : Migration.Session δ

variable {δ : Type}

/-- Bring the tables up to date. -/
def upgradeTables (around : Surroundings δ) : Action δ Failure (List String) := do
  let settings ← Action.ofExcept ((DatabaseSettings.load around.settings).mapError .settings)
  let options ← Action.ofExcept
    ((settings.source.connectOptions around.account).mapError .database)
  (around.connect options).mapError .database
  (Migration.applyAll around.session Migration.all).mapError .migration
  return []

/-- The lines that show a new token. -/
def issuedLines (issued : Bearer.Issued) : List String :=
  [issued.token, "expires_at: " ++ Calendar.offsetText issued.expiresAt]

/-- Issue a token for a user.  The work is given up when the token would never expire. -/
def printToken (around : Surroundings δ) (user : UserId) : Action δ Failure (List String) := do
  let key ← Action.ofExcept ((loadSigningKey around.settings around.gauge).mapError .settings)
  match Bearer.issue key user around.now with
  | some issued => return issuedLines issued
  | none => Action.abort

/-- The line that shows a user. -/
def userLine (user : UserId) : String := "user_id: " ++ user.text

/-- Look whom a token is for.  Blanks around the token do not count. -/
def printUser (around : Surroundings δ) (token : String) : Action δ Failure (List String) := do
  let key ← Action.ofExcept ((loadSigningKey around.settings around.gauge).mapError .settings)
  let user ← Action.ofExcept
    ((Bearer.validate key (trimmed token) around.now).mapError .token)
  return [userLine user]

/-- Carry out a command.  Its value is the lines that it prints. -/
def run (around : Surroundings δ) : Command → Action δ Failure (List String)
  | .migrate => upgradeTables around
  | .issueToken user => printToken around user
  | .verifyToken token => printUser around token

end OrderDesk.Command
