/-
The program of the operator.

This layer only fetches and delivers: arguments, settings, the file of settings and the
time come in, lines and an exit code go out.  It has no client for the database, so a
command that needs one ends by saying so.
-/
import OrderDesk.Command.Help
import OrderDesk.Command.Run
import OrderDesk.Settings.EnvFile
import Std.Time.DateTime.Timestamp

namespace OrderDesk.Program

/-- The settings that a command may look at. -/
def settingNames : List String :=
  ["DATABASE_URL", "DB_HOST", "DB_PORT", "DB_USERNAME", "DB_PASSWORD", "DB_NAME", "DB_SSLMODE",
   "DB_MAX_CONNECTIONS", "DB_QUERY_TIMEOUT_MS", "DB_SLOW_QUERY_MS", "SIGNING_KEY"]

/-- The settings that are there, without those of the file. -/
def environmentSettings : IO Lookup := do
  let found ← settingNames.filterMapM fun name => do
    return (← IO.getEnv name).map fun value => (name, value)
  return fun name => found.lookup name

/-- The text of the file of settings; nothing when it is not there. -/
def settingsFile : IO String :=
  try IO.FS.readFile ".env" catch _ => return ""

/-- The time. -/
def currentTime : IO Instant := do
  let nanos := (← Std.Time.Timestamp.now).toNanosecondsSinceUnixEpoch.val
  return (Instant.ofParts? (nanos / 1000000000) (nanos % 1000000000).toNat).getD Instant.epoch

/-- The way to a database that cannot be reached. -/
def noWay {α : Type} : Action Unit DatabaseError α :=
  Action.fail (.unreachable "there is no client for the database")

/-- What the commands find around them. -/
def surroundings : IO (Command.Surroundings Unit) := do
  return { settings := EnvFile.lookup (← environmentSettings) (← settingsFile)
           now := ← currentTime
           account := (← IO.getEnv "USER").getD "postgres"
           connect := fun _ => noWay
           session := { execute := fun _ => noWay, unfinished := noWay, applied := noWay } }

/-- Print lines and report success. -/
def succeed (lines : List String) : IO UInt32 := do
  lines.forM fun line => IO.println line
  return 0

/-- Carry out a command. -/
def carryOut (command : Command) : IO UInt32 := do
  match (Command.run (← surroundings) command ()).ending with
  | .done lines => succeed lines
  | .failed e =>
    IO.eprintln ("Command failed: " ++ e.message)
    return 1
  | .aborted =>
    IO.eprintln "The time is out of range"
    return 101

end OrderDesk.Program

/-- Do what the arguments ask for. -/
def main (args : List String) : IO UInt32 := do
  match OrderDesk.Command.read args with
  | .error e =>
    IO.eprintln ("error: " ++ e.message)
    return 2
  | .ok (.showHelp page) => OrderDesk.Program.succeed page.lines
  | .ok .showVersion => OrderDesk.Program.succeed [OrderDesk.Command.versionText]
  | .ok (.run command) => OrderDesk.Program.carryOut command
