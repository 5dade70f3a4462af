/-
Where the database is.

The database is named by one address, or else by its parts, each a setting of its own.
The address wins; the parts are not even looked at when there is one.
-/
import OrderDesk.Net.Address
import OrderDesk.Settings.Lookup
import OrderDesk.Store.Deadline
import OrderDesk.Url.Basic

namespace OrderDesk

open OrderDesk.Text

/-- Whether the connection to the database is encrypted. -/
inductive SslMode where
  | disable
  | allow
  | prefer
  | require
  | verifyCa
  | verifyFull
  deriving DecidableEq, Repr

/-- Each mode under its name. -/
def SslMode.names : List (String × SslMode) :=
  [("disable", .disable), ("allow", .allow), ("prefer", .prefer), ("require", .require),
   ("verify-ca", .verifyCa), ("verify-full", .verifyFull)]

/-- Read a mode, in capital or small letters. -/
def SslMode.parse (s : String) : Except String SslMode :=
  match names.lookup (lowerAsciiText s) with
  | some mode => .ok mode
  | none => .error ("error with configuration: unknown value " ++ quoted s ++ " for `ssl_mode`")

/-- The parts that name a database. -/
structure DatabaseParts where
  host : String
  port : Nat
  username : String
  password : String
  database : String
  sslMode : SslMode
  deriving DecidableEq, Repr

/-- Where the database is. -/
inductive DatabaseSource where
  | url (address : String)
  | parts (p : DatabaseParts)
  deriving DecidableEq, Repr

/-- All settings of the database. -/
structure DatabaseSettings where
  source : DatabaseSource
  maxConnections : Nat
  queries : QueryPolicy
  deriving DecidableEq, Repr

/-! ### Loading -/

/-- Load the parts. -/
def DatabaseParts.load (lookup : Lookup) : Except SettingsError DatabaseParts := do
  let port ← lookup.number 16 "DB_PORT" "5432"
  let username ← lookup.required "DB_USERNAME"
  let password ← lookup.required "DB_PASSWORD"
  let database ← lookup.required "DB_NAME"
  let sslMode ← lookup.parsed "DB_SSLMODE" "prefer" SslMode.parse
  return { host := lookup.orElse "DB_HOST" "localhost"
           port := port
           username := username
           password := password
           database := database
           sslMode := sslMode }

/-- Load the address or the parts. -/
def DatabaseSource.load (lookup : Lookup) : Except SettingsError DatabaseSource :=
  match lookup.present "DATABASE_URL" with
  | some address => .ok (.url address)
  | none => (DatabaseParts.load lookup).map .parts

/-- Load how many connections there may be at once; there has to be one. -/
def loadMaxConnections (lookup : Lookup) : Except SettingsError Nat := do
  let n ← lookup.number 32 "DB_MAX_CONNECTIONS" "10"
  if n = 0 then .error (.invalid "DB_MAX_CONNECTIONS" "must be at least 1") else .ok n

/-- Load all settings of the database. -/
def DatabaseSettings.load (lookup : Lookup) : Except SettingsError DatabaseSettings := do
  let source ← DatabaseSource.load lookup
  let maxConnections ← loadMaxConnections lookup
  let timeout ← lookup.number 64 "DB_QUERY_TIMEOUT_MS" "5000"
  let slow ← lookup.number 64 "DB_SLOW_QUERY_MS" "100"
  return { source := source
           maxConnections := maxConnections
           queries := ⟨.ofMillis timeout, .ofMillis slow⟩ }

/-! ### Connecting -/

/-- What the client of the database needs to connect. -/
structure ConnectOptions where
  host : String
  port : Nat
  username : String
  /-- The name of the database, if it is not the one of the user. -/
  database : Option String
  sslMode : SslMode
  /-- The directory of a local socket, which is used in place of the host. -/
  socket : Option String
  deriving DecidableEq, Repr

namespace ConnectOptions

/-- What is assumed where nothing is said; the user is the one who runs the program. -/
def usual (account : String) : ConnectOptions :=
  { host := "localhost"
    port := 5432
    username := account
    database := none
    sslMode := .prefer
    socket := none }

/-- The host, or the directory of a socket when it begins with a slash. -/
def withHost (o : ConnectOptions) (shown decoded : String) : ConnectOptions :=
  if decoded.startsWith "/" then { o with socket := some decoded } else { o with host := shown }

/-- Take over one parameter of the query. -/
def applyParameter (o : ConnectOptions) (name value : String) : Except String ConnectOptions :=
  match name with
  | "sslmode" | "ssl-mode" => (SslMode.parse value).map fun mode => { o with sslMode := mode }
  | "host" => .ok (o.withHost value value)
  | "hostaddr" =>
    match IpAddress.parse? value with
    | some _ => .ok { o with host := value }
    | none => .error IpAddress.invalidMessage
  | "port" =>
    ((readNumeral (.unsigned 16) value.toList).map fun n => { o with port := n.toNat }).mapError
      NumeralError.message
  | "dbname" => .ok { o with database := some value }
  | "user" => .ok { o with username := value }
  | "statement-cache-capacity" =>
    ((readNumeral (.unsigned 64) value.toList).map fun _ => o).mapError NumeralError.message
  | _ => .ok o

/-- The text that a part of the address stands for. -/
def decoded (s : String) : Except String String :=
  match Url.percentText? s with
  | some text => .ok text
  | none => .error "invalid utf-8 sequence"

/-- Take over a part of the address that may be missing. -/
def applyPart (part : Option String) (o : ConnectOptions)
    (set : String → ConnectOptions → ConnectOptions) : Except String ConnectOptions :=
  match part with
  | none => .ok o
  | some s => (decoded s).map fun text => set text o

/-- What an address says. -/
def ofAddress (account : String) (a : Url.Address) : Except String ConnectOptions := do
  let o := usual account
  let o ← match a.host with
    | none => .ok o
    | some host =>
      if (Url.percentDecode (Utf8.encode host)).head? = some 0x2F then
        (decoded host).map fun text => o.withHost host text
      else .ok { o with host := host }
  let o := { o with port := a.port.getD o.port }
  let o ← applyPart (if a.username = "" then none else some a.username) o
    fun text o => { o with username := text }
  let o ← applyPart a.password o fun _ o => o
  let path := String.ofList (a.path.toList.dropWhile (· == '/'))
  let o ← applyPart (if path = "" then none else some path) o
    fun text o => { o with database := some text }
  (Url.formPairs (Utf8.encode a.query)).foldlM
    (fun o (name, value) => o.applyParameter name value) o

end ConnectOptions

/-- What the client of the database needs to connect, or why the settings do not say. -/
def DatabaseSource.connectOptions (account : String) :
    DatabaseSource → Except DatabaseError ConnectOptions
  | .url address =>
    match Url.Address.parse address with
    | .error e => .error (.configuration e.message)
    | .ok a => (ConnectOptions.ofAddress account a).mapError .configuration
  | .parts p => .ok
      { host := p.host
        port := p.port
        username := p.username
        database := some p.database
        sslMode := p.sslMode
        socket := none }

end OrderDesk
