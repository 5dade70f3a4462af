/-
Starting the server.

The server starts in stages, and the first that fails ends the start: the settings are
loaded, then it is settled where errors are reported, then the database is connected
and asked whether it is there, and last the server begins to listen.
-/
import OrderDesk.Action
import OrderDesk.Settings.ReportTarget
import OrderDesk.Settings.Server

namespace OrderDesk.Startup

open OrderDesk.Text

/-- Why the server does not start. -/
inductive Failure where
  | settings (cause : SettingsError)
  | reportTarget (cause : ReportTargetError)
  /-- There is no connection to the database. -/
  | connection (cause : DatabaseError)
  /-- There is a connection, but the database does not answer as it should. -/
  | database (cause : DatabaseError)
  /-- The server cannot listen where it should. -/
  | listening (reason : String)
  deriving DecidableEq, Repr

/-- The text that reports the stage that failed. -/
def Failure.stage : Failure → String
  | .settings _ => "Failed to load configuration"
  | .reportTarget _ => "invalid value for DSN"
  | .connection _ => "Failed to create database pool"
  | .database _ => "Database is not reachable"
  | .listening _ => "Failed to bind to address"

/-- What the server needs from its surroundings. -/
structure Surroundings (δ : Type) where
  settings : Lookup
  /-- What the signing key is judged by. -/
  gauge : Secret.Gauge := .plain
  /-- The account that runs the server. -/
  account : String
  connect : ConnectOptions → Action δ DatabaseError Unit
  ping : Action δ DatabaseError Unit
  listen : SocketAddress → Action δ String Unit

/-- Settle where errors are reported, if anywhere. -/
def reportTarget (settings : ServerSettings) : Except Failure (Option ReportTarget) :=
  match settings.sentryDsn with
  | none => .ok none
  | some address => ((ReportTarget.parse address).map some).mapError .reportTarget

/-- The entry for a database that answers. -/
def connectedEntry (settings : ServerSettings) : LogEntry :=
  ⟨.info, "Database pool created",
    [("max_connections", natText settings.database.maxConnections)]⟩

/-- The entry for a server that is about to listen. -/
def listeningEntry (settings : ServerSettings) : LogEntry :=
  ⟨.info, "order-keeper listening on " ++ settings.socketAddress.text, []⟩

/-- Start the server. -/
def start {δ : Type} (around : Surroundings δ) : Action δ Failure ServerSettings := do
  let settings ← Action.ofExcept
    ((ServerSettings.load around.settings around.gauge).mapError .settings)
  let _ ← Action.ofExcept (reportTarget settings)
  let options ← Action.ofExcept
    ((settings.database.source.connectOptions around.account).mapError .connection)
  (around.connect options).mapError .connection
  around.ping.mapError .database
  Action.note (connectedEntry settings)
  Action.note (listeningEntry settings)
  (around.listen settings.socketAddress).mapError .listening
  return settings

end OrderDesk.Startup
