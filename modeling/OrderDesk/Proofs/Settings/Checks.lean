/-
What the settings of the server depend on.

The loader goes through the settings one after another, and each of its steps reads a single one.
So all that decides about failure is a list of settings in the order of the checks and, for each
of them, which texts are acceptable: loading fails exactly when some setting of the list is
unacceptable, the failure is that of the first one, and no setting behind it has a say.  The list
itself depends on one thing only, whether there is an address of the database; if there is, the
parts that could name it are not on the list.

What is acceptable is said without the readers of the loader.
-/
import Mathlib.Data.List.Nodup
import OrderDesk.Proofs.Fallible
import OrderDesk.Proofs.Settings.Secret
import OrderDesk.Proofs.Text.Integer
import OrderDesk.Settings.Server

namespace OrderDesk

open OrderDesk.Text

/-! ### The settings -/

/-- The settings that the loader reads. -/
inductive Setting where
  | host
  | port
  | databaseUrl
  | databaseHost
  | databasePort
  | databaseUser
  | databasePassword
  | databaseName
  | databaseSsl
  | maxConnections
  | queryTimeout
  | slowQuery
  | signingKey
  | sentryDsn
  | sentryEnvironment
  | logFormat
  deriving DecidableEq, Repr

namespace Setting

/-- The name that a setting is looked up under. -/
def name : Setting → String
  | .host => "ORDER_KEEPER_HOST"
  | .port => "ORDER_KEEPER_PORT"
  | .databaseUrl => "DATABASE_URL"
  | .databaseHost => "DB_HOST"
  | .databasePort => "DB_PORT"
  | .databaseUser => "DB_USERNAME"
  | .databasePassword => "DB_PASSWORD"
  | .databaseName => "DB_NAME"
  | .databaseSsl => "DB_SSLMODE"
  | .maxConnections => "DB_MAX_CONNECTIONS"
  | .queryTimeout => "DB_QUERY_TIMEOUT_MS"
  | .slowQuery => "DB_SLOW_QUERY_MS"
  | .signingKey => "SIGNING_KEY"
  | .sentryDsn => "SENTRY_DSN"
  | .sentryEnvironment => "SENTRY_ENVIRONMENT"
  | .logFormat => "LOG_FORMAT"

/-- All of them. -/
def all : List Setting :=
  [.host, .port, .databaseUrl, .databaseHost, .databasePort, .databaseUser, .databasePassword,
   .databaseName, .databaseSsl, .maxConnections, .queryTimeout, .slowQuery, .signingKey,
   .sentryDsn, .sentryEnvironment, .logFormat]

theorem mem_all (v : Setting) : v ∈ all := by cases v <;> decide

/-- The settings that name the database where there is no address. -/
def parts : List Setting :=
  [.databaseHost, .databasePort, .databaseUser, .databasePassword, .databaseName, .databaseSsl]

/-- The parts that are checked; any host will do. -/
def partChecks : List Setting :=
  [.databasePort, .databaseUser, .databasePassword, .databaseName, .databaseSsl]

/-- The settings that say where the database is, in the order in which they are checked. -/
def sourceOrder (lookup : Lookup) : List Setting :=
  if (lookup.present "DATABASE_URL").isSome then [] else partChecks

/-- The settings of the database, in the order in which they are checked. -/
def databaseOrder (lookup : Lookup) : List Setting :=
  sourceOrder lookup ++ [.maxConnections, .queryTimeout, .slowQuery]

/-- All settings that are checked, in the order of the checks. -/
def order (lookup : Lookup) : List Setting :=
  [.host, .port] ++ databaseOrder lookup ++ [.signingKey, .logFormat]

/-- The numeral of a number of `bits` bits, without a minus sign. -/
def Fits (bits : Nat) (s : String) : Prop := ∃ n : Nat, IsNumeral False s.toList n ∧ n < 2 ^ bits

end Setting

/-! ### Single settings -/

namespace Lookup

/-- Two judgements measure the key of the settings alike. -/
def KeyAlike (lookup : Lookup) (gauge gauge' : Secret.Gauge) : Prop :=
  ∀ key ∈ lookup.present "SIGNING_KEY", gauge.Alike gauge' key

variable {lookup lookup' : Lookup} {name other : String} {α : Type}
  {read : String → Except String α}

theorem required_congr (h : lookup.present name = lookup'.present name) :
    lookup.required name = lookup'.required name := by
  rw [required, required, h]

theorem parsed_congr (h : lookup.present name = lookup'.present name) :
    lookup.parsed name other read = lookup'.parsed name other read := by
  rw [parsed, parsed, orElse, orElse, h]

theorem number_congr {bits : Nat} (h : lookup.present name = lookup'.present name) :
    lookup.number bits name other = lookup'.number bits name other :=
  parsed_congr h

theorem required_eq_ok_iff {s : String} :
    lookup.required name = .ok s ↔ lookup.present name = some s := by
  rw [required]
  cases lookup.present name <;> simp

theorem parsed_eq_ok_iff {a : α} :
    lookup.parsed name other read = .ok a ↔ read (lookup.orElse name other) = .ok a := by
  rw [parsed]
  cases read (lookup.orElse name other) <;> simp [Except.mapError]

theorem number_eq_ok_iff {bits n : Nat} :
    lookup.number bits name other = .ok n ↔
      IsNumeral False (lookup.orElse name other).toList n ∧ n < 2 ^ bits := by
  rw [number, parsed_eq_ok_iff]
  constructor
  · intro h
    cases hm : readNumeral (.unsigned bits) (lookup.orElse name other).toList with
    | error e => rw [hm] at h; contradiction
    | ok m =>
        rw [hm] at h
        obtain ⟨hnumeral, hlow, hhigh⟩ := readNumeral_unsigned_eq_ok_iff.mp hm
        have hn : m.toNat = n := Except.ok.inj h
        have hmn : m = n := by omega
        subst hmn
        exact ⟨hnumeral, by exact_mod_cast hhigh⟩
  · rintro ⟨hnumeral, hlt⟩
    have hok : readNumeral (.unsigned bits) (lookup.orElse name other).toList = .ok (n : Int) :=
      readNumeral_unsigned_eq_ok_iff.mpr ⟨hnumeral, by omega, by exact_mod_cast hlt⟩
    rw [hok]
    rfl

/-! The errors of all three name the setting that was asked for. -/

end Lookup

section Load

variable {lookup lookup' : Lookup} {gauge gauge' : Secret.Gauge} {e : SettingsError}

theorem loadSigningKey_eq_ok_iff {key : String} :
    loadSigningKey lookup gauge = .ok key ↔
      lookup.present "SIGNING_KEY" = some key ∧ Secret.Strong gauge key := by
  rw [loadSigningKey, bind_eq_ok_iff]
  simp only [Lookup.required_eq_ok_iff, bind_eq_ok_iff]
  constructor
  · rintro ⟨key', hpresent, ⟨⟩, hcheck, h⟩
    cases h
    exact ⟨hpresent, Secret.check_eq_ok_iff.mp hcheck⟩
  · rintro ⟨hpresent, hstrong⟩
    exact ⟨key, hpresent, (), Secret.check_eq_ok_iff.mpr hstrong, rfl⟩

theorem loadMaxConnections_congr
    (h : lookup.present "DB_MAX_CONNECTIONS" = lookup'.present "DB_MAX_CONNECTIONS") :
    loadMaxConnections lookup = loadMaxConnections lookup' := by
  rw [loadMaxConnections, loadMaxConnections, Lookup.number_congr h]

theorem loadSigningKey_congr (h : lookup.present "SIGNING_KEY" = lookup'.present "SIGNING_KEY")
    (halike : lookup.KeyAlike gauge gauge') :
    loadSigningKey lookup gauge = loadSigningKey lookup' gauge' := by
  rw [loadSigningKey, loadSigningKey, ← Lookup.required_congr h]
  refine bind_congr_of_ok fun key hkey => ?_
  rw [Secret.check_congr (halike key (Lookup.required_eq_ok_iff.mp hkey))]

end Load

namespace Setting

variable {lookup lookup' : Lookup} {gauge gauge' : Secret.Gauge} {v : Setting} {e : SettingsError}

/-- What the check of a setting reports. -/
def fault (lookup : Lookup) (gauge : Secret.Gauge) : Setting → Option SettingsError
  | .host => errorOf (lookup.parsed "ORDER_KEEPER_HOST" "127.0.0.1" parseHost)
  | .port => errorOf (lookup.number 16 "ORDER_KEEPER_PORT" "8000")
  | .databasePort => errorOf (lookup.number 16 "DB_PORT" "5432")
  | .databaseUser => errorOf (lookup.required "DB_USERNAME")
  | .databasePassword => errorOf (lookup.required "DB_PASSWORD")
  | .databaseName => errorOf (lookup.required "DB_NAME")
  | .databaseSsl => errorOf (lookup.parsed "DB_SSLMODE" "prefer" SslMode.parse)
  | .maxConnections => errorOf (loadMaxConnections lookup)
  | .queryTimeout => errorOf (lookup.number 64 "DB_QUERY_TIMEOUT_MS" "5000")
  | .slowQuery => errorOf (lookup.number 64 "DB_SLOW_QUERY_MS" "100")
  | .signingKey => errorOf (loadSigningKey lookup gauge)
  | .logFormat => errorOf (lookup.parsed "LOG_FORMAT" "text" LogFormat.parse)
  | .databaseUrl | .databaseHost | .sentryDsn | .sentryEnvironment => none

/-- A check reads its own setting and no other, and only one check measures. -/
theorem fault_congr (h : lookup.present v.name = lookup'.present v.name)
    (halike : v = .signingKey → lookup.KeyAlike gauge gauge') :
    v.fault lookup gauge = v.fault lookup' gauge' := by
  cases v with
  | host | databaseSsl | logFormat => exact congrArg errorOf (Lookup.parsed_congr h)
  | port | databasePort | queryTimeout | slowQuery =>
      exact congrArg errorOf (Lookup.number_congr h)
  | databaseUser | databasePassword | databaseName =>
      exact congrArg errorOf (Lookup.required_congr h)
  | maxConnections => exact congrArg errorOf (loadMaxConnections_congr h)
  | signingKey => exact congrArg errorOf (loadSigningKey_congr h (halike rfl))
  | databaseUrl | databaseHost | sentryDsn | sentryEnvironment => rfl

end Setting

end OrderDesk
