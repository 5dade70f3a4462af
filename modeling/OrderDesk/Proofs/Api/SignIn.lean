/-
Who fails to sign in does not learn why.

Signing in can fail at four places: what was typed is no name, nobody has that name, the
password is not the one that was stored, or the stored text is not one that any password
matches.  All four come out as one error before it becomes a response, so one response is all
that is seen of them, whatever users the store holds.  What is checked before, that there is a
name and a password at all, is checked without looking at the store.

An `Attempt` is a request to sign in together with the application that it is sent to.  The
statements here are about two attempts at a time, which need not have anything in common.
-/
import OrderDesk.Proofs.Api.Gate
import OrderDesk.Proofs.Service.SignIn

namespace OrderDesk.Api

open OrderDesk.Accounts (Holds knownIn named)
open OrderDesk.Http
open OrderDesk.Text

/-- A request to sign in with a body that can be read, the application that it is sent to, and
the users that its store knows. -/
structure Attempt (σ : Type) where
  services : Services σ
  occasion : Occasion
  request : Request
  body : SignIn
  state : σ
  known : Username → Option User
  route_eq : route request.target.path request.method = .found .signIn
  body_eq : readBody SignIn.decode request = .ok body
  holds : Holds services.accounts.users state known

namespace Attempt

variable {σ τ : Type}

/-- What is shown to whoever tries. -/
def shown (v : Attempt σ) : Ending Empty (Nat × String) :=
  (serve v.services v.occasion v.request v.state).ending.map Answer.shown

/-- The state that the attempt leads to. -/
def after (v : Attempt σ) : σ := (serve v.services v.occasion v.request v.state).state

/-- There is a name and a password to try. -/
def Filled (v : Attempt σ) : Prop :=
  trim v.body.username.toList ≠ [] ∧ v.body.password ≠ ""

/-- The name is that of a user who is known, and what is stored for this user accepts the
password. -/
def Authenticates (v : Attempt σ) : Prop :=
  ∃ username user, Username.parse v.body.username = .ok username ∧
    v.known username = some user ∧
    v.services.accounts.passwords.accepts user.passwordHash v.body.password = true

end Attempt

/-- What is shown to somebody who fails to sign in. -/
def signInFailure : Nat × String :=
  (401, Json.writeObject
    [("error", Json.writeText "Invalid username or password"),
     ("code", Json.writeText "AUTHENTICATION_FAILED")])

/-- What is shown to somebody who leaves something out. -/
def signInIncomplete (what : String) : Nat × String :=
  (400, Json.writeObject
    [("error", Json.writeText "Invalid request"), ("code", Json.writeText "VALIDATION_ERROR"),
     ("details", Json.writeText what)])

/-- What is left out, if anything: the name is looked at first. -/
def missingIn (body : SignIn) : Option String :=
  if trim body.username.toList = [] then some "username is required"
  else if body.password = "" then some "password is required"
  else none

theorem method_of_signIn {path : List UInt8} {method : String}
    (h : route path method = .found .signIn) : method ≠ "HEAD" := by
  rintro rfl
  unfold route at h
  split at h
  · cases h
  · next place _ => cases place <;> cases h

theorem checkSignIn_eq (body : SignIn) :
    checkSignIn body =
      match missingIn body with
      | some what => .error (.validation what)
      | none => .ok () := by
  unfold checkSignIn missingIn
  split
  · rfl
  · split <;> rfl

namespace Attempt

variable {σ : Type} (v : Attempt σ)

theorem filled_iff : v.Filled ↔ missingIn v.body = none := by
  unfold Filled missingIn
  split
  · next hblank => exact ⟨fun h => absurd hblank h.1, fun h => nomatch h⟩
  · next hname =>
    split
    · next hempty => exact ⟨fun h => absurd hempty h.2, fun h => nomatch h⟩
    · next hpassword => exact ⟨fun _ => rfl, fun _ => ⟨hname, hpassword⟩⟩

/-- What is done once the body has been read. -/
theorem work_eq : work v.services v.occasion v.request =
    Action.ofExcept (checkSignIn v.body) >>= fun _ =>
      (fun issued => Response.json 200 (tokenBody issued)) <$>
        (v.services.accounts.login v.occasion.now v.body.username v.body.password).mapError
          ApiError.auth := by
  rw [work, v.route_eq]
  simp only [signIn, v.body_eq, Action.ofExcept, Action.done_bind]
  rfl

theorem shown_eq :
    v.shown = (outcomeOf (work v.services v.occasion v.request v.state).ending).map
      fun response => (response.status, response.body) := by
  rw [shown, shown_serve, shownOf_of_ne (method_of_signIn v.route_eq)]

theorem after_eq : v.after = (work v.services v.occasion v.request v.state).state :=
  (serve_work v.services v.occasion v.request v.state).2

/-- Where something is left out, the store is not asked. -/
theorem of_missing {what : String} (h : missingIn v.body = some what) :
    v.shown = .done (signInIncomplete what) ∧ v.after = v.state := by
  have hcheck : checkSignIn v.body = .error (.validation what) := by
    rw [checkSignIn_eq, h]
  rw [v.shown_eq, v.after_eq, v.work_eq, hcheck]
  exact ⟨rfl, rfl⟩

/-- Whatever the reason is for which an attempt fails, it is not told. -/
theorem of_stranger (hfilled : v.Filled) (h : ¬v.Authenticates) :
    v.shown = .done signInFailure ∧ v.after = v.state := by
  have hcheck : checkSignIn v.body = .ok () := by
    rw [checkSignIn_eq, v.filled_iff.mp hfilled]
  have hstranger : ∀ u, named v.known v.body.username = some u →
      v.services.accounts.passwords.accepts u.passwordHash v.body.password = false := by
    intro u hnamed
    unfold named at hnamed
    cases hname : Username.parse v.body.username with
    | error cause =>
        rw [hname] at hnamed
        cases hnamed
    | ok username =>
        rw [hname] at hnamed
        exact Bool.eq_false_iff.mpr fun haccepts => h ⟨username, u, hname, hnamed, haccepts⟩
  obtain ⟨hending, hstate⟩ := Accounts.login_of_stranger v.holds hstranger v.occasion.now
  rw [v.shown_eq, v.after_eq, v.work_eq, hcheck, Action.ofExcept, Action.done_bind,
    Action.ending_map, Action.state_map, Action.ending_mapError, Action.state_mapError, hending,
    hstate]
  exact ⟨rfl, rfl⟩

/-- Who is known and knows the password is shown a token, if there is one to be had. -/
theorem of_known (hfilled : v.Filled) {u : User}
    (hnamed : named v.known v.body.username = some u)
    (haccepts : v.services.accounts.passwords.accepts u.passwordHash v.body.password = true)
    {issued : Bearer.Issued}
    (hissued : Bearer.issue v.services.accounts.signingKey u.id v.occasion.now = some issued) :
    v.shown = .done (200, tokenBody issued) := by
  have hcheck : checkSignIn v.body = .ok () := by
    rw [checkSignIn_eq, v.filled_iff.mp hfilled]
  obtain ⟨hending, -⟩ := Accounts.login_of_known v.holds hnamed haccepts v.occasion.now
  rw [Accounts.issue, hissued] at hending
  rw [v.shown_eq, v.work_eq, hcheck, Action.ofExcept, Action.done_bind, Action.ending_map,
    Action.ending_mapError, hending]
  rfl

end Attempt

/-! ### Stores -/

/-- A store that is kept in a part of a larger state knows the same users there. -/
theorem holds_onPart {σ τ : Type} {get : τ → σ} {set : σ → τ → τ} {store : CredentialStore σ}
    {t : τ} {known : Username → Option User} (h : Holds store (get t) known)
    (hset : set (get t) t = t) : Holds (store.onPart get set) t known where
  found := h.found
  unknown := h.unknown
  state name := (congrArg (set · t) (h.state name)).trans hset

/-- Tables in memory know the users that are in them, whoever these are. -/
theorem holds_tables (t : Tables) (now : Instant) :
    Holds (Tables.userStore now) t (knownIn t.users) :=
  holds_onPart (Accounts.holds_table t.users now) rfl

/-- A text that cannot be read as what is stored for a password accepts no password. -/
theorem accepts_of_unreadable {stored : String} (h : Password.Stored.parse stored = none)
    (password : String) : Password.argon2.accepts stored password = false := by
  show Password.accepts stored password = false
  rw [Password.accepts, h]

/-- **Every failing attempt to sign in looks the same.**  Of two attempts that name somebody and
give a password, made on any two stores, that do not authenticate, neither can be told from the
other, and neither changes anything.  What is shown where the name or the password is left out
depends on the request alone.  And a success is only shown to somebody whose name is that of a
user whose stored text accepts the password.  Any tables in memory are such a store, and a
stored text that cannot be read accepts nothing. -/
theorem failures_look_alike :
    (∀ (σ τ : Type) (v : Attempt σ) (w : Attempt τ), v.Filled → w.Filled →
      ¬v.Authenticates → ¬w.Authenticates →
      v.shown = w.shown ∧ v.shown = .done signInFailure ∧
        v.after = v.state ∧ w.after = w.state) ∧
    (∀ (σ : Type) (v : Attempt σ), ¬v.Filled → ∃ what, missingIn v.body = some what ∧
      v.shown = .done (signInIncomplete what) ∧ v.after = v.state) ∧
    (∀ (σ : Type) (v : Attempt σ) (body : String), v.shown = .done (200, body) →
      v.Authenticates) ∧
    (∀ (t : Tables) (now : Instant), Holds (Tables.userStore now) t (knownIn t.users)) ∧
    ∀ stored password : String, Password.Stored.parse stored = none →
      Password.argon2.accepts stored password = false := by
  refine ⟨?_, ?_, ?_, holds_tables, fun stored password h => accepts_of_unreadable h password⟩
  · intro σ τ v w hv hw hv' hw'
    obtain ⟨hshown, hstate⟩ := v.of_stranger hv hv'
    obtain ⟨hshown', hstate'⟩ := w.of_stranger hw hw'
    exact ⟨hshown.trans hshown'.symm, hshown, hstate, hstate'⟩
  · intro σ v h
    obtain ⟨what, hwhat⟩ := Option.ne_none_iff_exists'.mp (mt v.filled_iff.mpr h)
    exact ⟨what, hwhat, v.of_missing hwhat⟩
  · intro σ v body h
    by_contra hstranger
    cases hmissing : missingIn v.body with
    | some what =>
        rw [(v.of_missing hmissing).1] at h
        cases h
    | none =>
        rw [(v.of_stranger (v.filled_iff.mpr hmissing) hstranger).1] at h
        cases h

/-- A request to sign in. -/
def signingIn (body : String) : Request where
  method := "POST"
  target := ⟨Utf8.encode "/auth/sign-in", []⟩
  headers := [("content-type", Utf8.encode "application/json")]
  body := Utf8.encode body

/-- Somebody tries to sign in as `alice` with the password `secret`. -/
def tries (passwords : PasswordScheme) (t : Tables) : Attempt Tables where
  services := inMemory passwords "k" .epoch
  occasion := daybreak
  request := signingIn "\x7b\"username\":\"alice\",\"password\":\"secret\"\x7d"
  body := ⟨"alice", "secret"⟩
  state := t
  known := knownIn t.users
  route_eq := by decide +kernel
  body_eq := by decide +kernel
  holds := holds_tables t .epoch

/-- Somebody leaves out the name. -/
def forgets (t : Tables) : Attempt Tables where
  services := inMemory Password.argon2 "k" .epoch
  occasion := daybreak
  request := signingIn "\x7b\"username\":\" \",\"password\":\"secret\"\x7d"
  body := ⟨" ", "secret"⟩
  state := t
  known := knownIn t.users
  route_eq := by decide +kernel
  body_eq := by decide +kernel
  holds := holds_tables t .epoch

/-- Alice has registered, and her password is stored as it is. -/
def withAlice : Tables :=
  ⟨(Accounts.Ledger.of Accounts.plain "k" Accounts.threeVisits).table, .empty⟩

/-- What is stored for Alice cannot be read. -/
theorem alice_unreadable : ¬(tries Password.argon2 withAlice).Authenticates := by
  rintro ⟨username, user, -, hknown, haccepts⟩
  have hstored : ∀ u ∈ withAlice.users.users, Password.Stored.parse u.passwordHash = none := by
    decide +kernel
  have hfind : withAlice.users.users.find? (fun u => u.username == username) = some user := hknown
  have huser : Password.argon2.accepts user.passwordHash "secret" = false :=
    accepts_of_unreadable (hstored user (List.mem_of_find?_eq_some hfind)) "secret"
  exact absurd haccepts (Bool.eq_false_iff.mp huser)

/-- Alice can sign in where the password is compared with what is stored. -/
theorem alice_signs_in : ∃ body, (tries Accounts.plain withAlice).shown = .done (200, body) := by
  have hfilled : (tries Accounts.plain withAlice).Filled :=
    (Attempt.filled_iff _).mpr (by decide +kernel)
  have hhash : (named (knownIn withAlice.users) "alice").map User.passwordHash =
      some "secret" := by decide +kernel
  obtain ⟨u, hnamed, hu⟩ := Option.map_eq_some_iff.mp hhash
  have haccepts : Accounts.plain.accepts u.passwordHash "secret" = true := by
    rw [hu]
    exact beq_self_eq_true "secret"
  have hissue : Bearer.issue "k" u.id .epoch ≠ none :=
    mt Bearer.issue_eq_none_iff.mp (by decide)
  obtain ⟨issued, hissued⟩ := Option.ne_none_iff_exists'.mp hissue
  exact ⟨_, Attempt.of_known _ hfilled hnamed haccepts hissued⟩

/-- An unknown user and one whose stored text cannot be read look the same, a name that is left
out is noticed, and Alice signs in. -/
theorem alice_tries :
    ((tries Password.argon2 .empty).shown = (tries Password.argon2 withAlice).shown ∧
      (tries Password.argon2 .empty).shown = .done signInFailure ∧
      (tries Password.argon2 .empty).after = .empty ∧
      (tries Password.argon2 withAlice).after = withAlice) ∧
    (∃ what, missingIn (forgets withAlice).body = some what ∧
      (forgets withAlice).shown = .done (signInIncomplete what) ∧
      (forgets withAlice).after = withAlice) ∧
    (tries Accounts.plain withAlice).Authenticates ∧
    Password.argon2.accepts "secret" "secret" = false := by
  obtain ⟨halike, hmissing, hsuccess, -, hunreadable⟩ := failures_look_alike
  have hfilled : (tries Password.argon2 .empty).Filled :=
    (Attempt.filled_iff _).mpr (by decide +kernel)
  have hunknown : ¬(tries Password.argon2 .empty).Authenticates := by
    rintro ⟨_, _, _, hknown, _⟩
    cases hknown
  obtain ⟨body, hbody⟩ := alice_signs_in
  refine ⟨?_, ?_, ?_, ?_⟩
  · exact halike Tables Tables _ _ hfilled hfilled hunknown alice_unreadable
  · exact hmissing Tables (forgets withAlice) fun h => h.1 (by decide +kernel)
  · exact hsuccess Tables _ body hbody
  · exact hunreadable "secret" "secret" (by decide +kernel)

end OrderDesk.Api
