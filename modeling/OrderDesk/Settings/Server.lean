/-
The settings of the server.

They are loaded one after another, and the first that is wrong is reported.
-/
import OrderDesk.Settings.Database
import OrderDesk.Settings.Secret

namespace OrderDesk

/-- How the log is written. -/
inductive LogFormat where
  | text
  | json
  deriving DecidableEq, Repr

/-- Read how the log is to be written. -/
def LogFormat.parse (s : String) : Except String LogFormat :=
  if s = "json" then .ok .json
  else if s = "text" then .ok .text
  else .error ("expected 'text' or 'json', got '" ++ s ++ "'")

/-- All settings of the server. -/
structure ServerSettings where
  host : IpAddress
  port : Nat
  database : DatabaseSettings
  /-- The key that tokens are signed with. -/
  signingKey : String
  /-- Where errors are reported. -/
  sentryDsn : Option String
  /-- The name under which errors are reported. -/
  sentryEnvironment : Option String
  logFormat : LogFormat
  deriving DecidableEq, Repr

/-- Read an address to listen on. -/
def parseHost (s : String) : Except String IpAddress :=
  match IpAddress.parse? s with
  | some host => .ok host
  | none => .error IpAddress.invalidMessage

/-- Load the key that tokens are signed with. -/
def loadSigningKey (lookup : Lookup) (gauge : Secret.Gauge := .plain) :
    Except SettingsError String := do
  let key ← lookup.required "SIGNING_KEY"
  Secret.check gauge "SIGNING_KEY" key
  return key

/-- Load all settings of the server. -/
def ServerSettings.load (lookup : Lookup) (gauge : Secret.Gauge := .plain) :
    Except SettingsError ServerSettings := do
  let host ← lookup.parsed "ORDER_KEEPER_HOST" "127.0.0.1" parseHost
  let port ← lookup.number 16 "ORDER_KEEPER_PORT" "8000"
  let database ← DatabaseSettings.load lookup
  let signingKey ← loadSigningKey lookup gauge
  let logFormat ← lookup.parsed "LOG_FORMAT" "text" LogFormat.parse
  return { host := host
           port := port
           database := database
           signingKey := signingKey
           sentryDsn := lookup.present "SENTRY_DSN"
           sentryEnvironment := lookup.present "SENTRY_ENVIRONMENT"
           logFormat := logFormat }

/-- Where the server listens. -/
def ServerSettings.socketAddress (s : ServerSettings) : SocketAddress := ⟨s.host, s.port⟩

end OrderDesk
