/-
A password leaves no trace but its verdict.

Two people send the same, but for the password.  If both passwords are long enough to register
with, or neither is, the two registrations are answered in the same way, write the same and add
the same user, who differs in the stored text alone.  If the stored text gives one verdict on
both passwords, two attempts to sign in are answered in the same way and write the same.

A statement about two runs follows the layers, and each layer passes on what the layer below
does: the store adds two users who differ in their stored text without being able to tell, the
handler makes that one call, and the answer is put together from what comes back.  The identifier
of a request may be random, so a `Trace` is an answer without it.
-/
import OrderDesk.Proofs.Api.Accounts
import OrderDesk.Proofs.Api.Handlers

namespace OrderDesk.Api

open OrderDesk.Accounts (Application accepted knownIn named)
open OrderDesk.Http
open OrderDesk.Text

/-! ### What can be seen -/

/-- What can be seen of an answer, and of the report behind it, apart from the identifier of the
request. -/
structure Trace where
  status : Nat
  headers : List (String × String)
  body : String
  /-- The texts of the error that is reported, and the caller who is named with them. -/
  report : Option (List String × Option String)
  deriving DecidableEq, Repr

/-- What can be seen of an answer. -/
def Answer.trace (a : Answer) : Trace where
  status := a.response.status
  headers := a.response.headers.filter fun header => header.1 ≠ RequestId.headerName
  body := a.response.body
  report := a.report.map fun report => (report.errors, report.user)

/-- Two runs of one kind of work cannot be told apart, though they may leave different states. -/
structure Indistinct {σ ε α : Type} (R : σ → σ → Prop) (x y : Step σ ε α) : Prop where
  ending : x.ending = y.ending
  log : x.log = y.log
  state : R x.state y.state

/-- Answer a request, as far as it can be seen. -/
def traced {σ : Type} (services : Services σ) (occasion : Occasion) (r : Request) :
    Action σ Empty Trace :=
  Answer.trace <$> serve services occasion r

/-- The tables that two registrations have made of one, whose users differ in what is stored for
the password. -/
inductive Forked (t : Tables) : Tables → Tables → Prop
  | unchanged : Forked t t t
  | registered (u : User) (stored : String) :
      Forked t { t with users := ⟨t.users.users ++ [u]⟩ }
        { t with users := ⟨t.users.users ++ [{ u with passwordHash := stored }]⟩ }

/-! ### Answers -/

section Answers

variable {σ : Type} {services : Services σ} {o₁ o₂ : Occasion} {r₁ r₂ : Request} {s : σ}
  {R : σ → σ → Prop}

theorem headers_dispatched (r : Request) (requestId : String) (response : Response) :
    (dispatched r requestId response).headers.filter (fun h => h.1 ≠ RequestId.headerName) =
      response.headers.filter fun h => h.1 ≠ RequestId.headerName := by
  rw [dispatched, RequestId.otherHeaders_stamp]
  split <;> rfl

/-- What can be seen of an answer does not depend on the identifier of its request. -/
theorem trace_dispatched {requestId requestId' : String} {caller : Option UserId}
    (hmethod : r₁.method = "HEAD" ↔ r₂.method = "HEAD") (x : Ending ApiError Response) :
    ((concluded requestId caller x).map (Answer.dispatched r₁ requestId)).map Answer.trace =
      ((concluded requestId' caller x).map (Answer.dispatched r₂ requestId')).map
        Answer.trace := by
  have hresponse : ∀ response report report',
      report.map (fun report : Report => (report.errors, report.user)) =
        report'.map (fun report => (report.errors, report.user)) →
      Answer.trace (Answer.dispatched r₁ requestId ⟨response, report⟩) =
        Answer.trace (Answer.dispatched r₂ requestId' ⟨response, report'⟩) := by
    intro response report report' hreport
    simp only [Answer.trace, Answer.dispatched, status_dispatched, headers_dispatched,
      body_dispatched, hmethod, hreport]
  cases x with
  | done response => exact congrArg Ending.done (hresponse _ _ _ rfl)
  | failed e =>
      refine congrArg Ending.done (hresponse _ _ _ ?_)
      unfold ApiError.report
      split <;> rfl
  | aborted => rfl

/-- The request is one to open or to use an account. -/
def AboutAccounts (r : Request) : Prop :=
  route r.target.path r.method = .found .signUp ∨ route r.target.path r.method = .found .signIn

/-- Nobody is asked who they are where accounts are opened and used. -/
theorem callerOf_of_accounts {r : Request} (h : AboutAccounts r) (occasion : Occasion) :
    callerOf services occasion r = none := by
  unfold callerOf
  obtain h | h := h
  · rw [h]
  · rw [h]

theorem method_of_accounts {r : Request} (h : AboutAccounts r) : r.method ≠ "HEAD" := by
  intro hhead
  unfold AboutAccounts route at h
  rw [hhead] at h
  split at h
  · obtain h | h := h <;> cases h
  · next place _ => cases place <;> obtain h | h := h <;> cases h

/-- What cannot be told apart in the work cannot be told apart in the answer. -/
theorem indistinct_of_work (h₁ : AboutAccounts r₁) (h₂ : AboutAccounts r₂)
    (h : Indistinct R (work services o₁ r₁ s) (work services o₂ r₂ s)) :
    Indistinct R (traced services o₁ r₁ s) (traced services o₂ r₂ s) := by
  unfold traced
  rw [Action.map_eq, Action.map_eq]
  refine ⟨?_, ?_, ?_⟩
  · simp only [serve_eq, callerOf_of_accounts h₁, callerOf_of_accounts h₂, h.ending]
    exact trace_dispatched (iff_of_false (method_of_accounts h₁) (method_of_accounts h₂)) _
  · simp only [log_serve, h.log, h.ending]
  · simp only [state_serve]
    exact h.state

end Answers

/-! ### Registering -/

section SignUp

variable {passwords : PasswordScheme} {key : String} {now : Instant}
  {userFaults : CredentialFaults} {orderFaults : OrderFaults} {t : Tables}

/-- A store cannot tell two new users apart who differ in their stored text. -/
theorem create_indistinct (t : Tables) (username : Username) (email : Email)
    (stored₁ stored₂ : String) :
    Indistinct (Forked t)
      (((Tables.userStore now).withFaults userFaults).create ⟨username, email, stored₁⟩ t)
      (((Tables.userStore now).withFaults userFaults).create ⟨username, email, stored₂⟩ t) := by
  unfold CredentialStore.withFaults Action.orFault
  cases userFaults.create with
  | some e => exact ⟨rfl, rfl, .unchanged⟩
  | none =>
      simp only [Tables.userStore, CredentialStore.onPart, Action.onPart, Memory.userStore,
        bounded_immediately]
      -- whether the name or the address is taken does not depend on the stored text
      have htaken : t.users.isTaken ⟨username, email, stored₁⟩ =
          t.users.isTaken ⟨username, email, stored₂⟩ := rfl
      unfold Memory.UserTable.create
      rw [htaken]
      split
      · exact ⟨rfl, rfl, .unchanged⟩
      · split
        · exact ⟨rfl, rfl, .registered _ stored₂⟩
        · exact ⟨rfl, rfl, .unchanged⟩

/-- What is wrong with an application is wrong with another password too. -/
theorem fault_congr {username email p₁ p₂ : String} (h : 6 ≤ p₁.length ↔ 6 ≤ p₂.length)
    {e : AuthError} (hfault : Application.Fault ⟨username, email, p₁⟩ e) :
    Application.Fault ⟨username, email, p₂⟩ e := by
  cases hfault with
  | username hcause => exact .username hcause
  | email husername hcause => exact .email husername hcause
  | password husername hemail hshort =>
      refine .password husername hemail ?_
      have hshort : p₁.length < 6 := hshort
      show p₂.length < 6
      omega

theorem signUp_indistinct {o₁ o₂ : Occasion} {r₁ r₂ : Request} {username email p₁ p₂ : String}
    (hroute₁ : route r₁.target.path r₁.method = .found .signUp)
    (hroute₂ : route r₂.target.path r₂.method = .found .signUp)
    (hbody₁ : readBody SignUp.decode r₁ = .ok ⟨email, p₁, username⟩)
    (hbody₂ : readBody SignUp.decode r₂ = .ok ⟨email, p₂, username⟩)
    (hlength : 6 ≤ p₁.length ↔ 6 ≤ p₂.length) :
    Indistinct (Forked t)
      (work ((inMemory passwords key now).withFaults userFaults orderFaults) o₁ r₁ t)
      (work ((inMemory passwords key now).withFaults userFaults orderFaults) o₂ r₂ t) := by
  obtain ⟨name, address, hvalid₁⟩ | ⟨e, hfault₁⟩ :=
    Accounts.valid_or_fault ⟨username, email, p₁⟩
  · have hvalid₂ : Application.Valid ⟨username, email, p₂⟩ name address :=
      ⟨hvalid₁.username, hvalid₁.email, hlength.mp hvalid₁.password⟩
    rw [signUp_call hroute₁ hbody₁ hvalid₁, signUp_call hroute₂ hbody₂ hvalid₂]
    obtain ⟨hending, hlog, hstate⟩ := @create_indistinct now userFaults t name address
      (passwords.hash o₁.salt p₁) (passwords.hash o₂.salt p₂)
    exact ⟨congrArg registered hending,
      congrArg₂ (· ++ Action.announced Accounts.registeredEntry ·) hlog hending, hstate⟩
  · rw [signUp_of_fault hroute₁ hbody₁ hfault₁,
      signUp_of_fault hroute₂ hbody₂ (fault_congr hlength hfault₁)]
    exact ⟨rfl, rfl, .unchanged⟩

end SignUp

/-! ### Signing in -/

section SignIn

/-- What is left out does not depend on which password is given. -/
theorem missingIn_congr {username p₁ p₂ : String} (h₁ : p₁ ≠ "") (h₂ : p₂ ≠ "") :
    missingIn ⟨username, p₁⟩ = missingIn ⟨username, p₂⟩ := by
  unfold missingIn
  rw [if_neg h₁, if_neg h₂]

/-- Nothing but the verdict on the password of a user who has been found depends on it. -/
theorem verdict_congr {σ : Type} {service : Accounts σ} {now : Instant} {name p₁ p₂ : String}
    {ending : Ending StoreError User}
    (h : ∀ u, ending = .done u →
      service.passwords.accepts u.passwordHash p₁ = service.passwords.accepts u.passwordHash p₂) :
    service.verdict now name p₁ ending = service.verdict now name p₂ ending := by
  cases ending with
  | done u =>
      unfold Accounts.verdict
      simp only [h u rfl]
  | failed e => cases e <;> rfl
  | aborted => rfl

/-- Two attempts whose passwords get one verdict come to the same, whatever the store does. -/
theorem signIn_congr {σ : Type} {services : Services σ} {s : σ} {o₁ o₂ : Occasion}
    (hnow : o₁.now = o₂.now) {r₁ r₂ : Request} {username p₁ p₂ : String}
    (hroute₁ : route r₁.target.path r₁.method = .found .signIn)
    (hroute₂ : route r₂.target.path r₂.method = .found .signIn)
    (hbody₁ : readBody SignIn.decode r₁ = .ok ⟨username, p₁⟩)
    (hbody₂ : readBody SignIn.decode r₂ = .ok ⟨username, p₂⟩) (h₁ : p₁ ≠ "") (h₂ : p₂ ≠ "")
    (hverdict : ∀ name u, Username.parse username = .ok name →
      (services.accounts.users.findByUsername name s).ending = .done u →
      services.accounts.passwords.accepts u.passwordHash p₁ =
        services.accounts.passwords.accepts u.passwordHash p₂) :
    work services o₁ r₁ s = work services o₂ r₂ s := by
  have hsame := @missingIn_congr username p₁ p₂ h₁ h₂
  cases hmissing : missingIn ⟨username, p₁⟩ with
  | some what =>
      rw [signIn_of_missing hroute₁ hbody₁ hmissing,
        signIn_of_missing hroute₂ hbody₂ (hsame ▸ hmissing)]
  | none =>
      cases hname : Username.parse username with
      | error cause =>
          rw [signIn_of_noName hroute₁ hbody₁ hmissing hname,
            signIn_of_noName hroute₂ hbody₂ (hsame ▸ hmissing) hname]
      | ok name =>
          rw [signIn_call hroute₁ hbody₁ hmissing hname,
            signIn_call hroute₂ hbody₂ (hsame ▸ hmissing) hname, hnow]
          simp only [verdict_congr fun u => hverdict name u hname]

/-- Whoever is found in tables is known there, and looking changes nothing. -/
theorem found_in_tables {faults : CredentialFaults} {now : Instant} {t : Tables} (name : Username) :
    let call := ((Tables.userStore now).withFaults faults).findByUsername name t
    (∀ u, call.ending = .done u → knownIn t.users name = some u) ∧ call.state = t := by
  intro call
  have hcall : call = (((Tables.userStore now).findByUsername name).orFault
      faults.findByUsername) t := rfl
  rw [hcall]
  unfold Action.orFault
  cases faults.findByUsername with
  | some e => exact ⟨fun u h => (nomatch h), rfl⟩
  | none =>
      have hholds := holds_tables t now
      refine ⟨?_, hholds.state name⟩
      intro u hdone
      cases hknown : knownIn t.users name with
      | none => cases (hholds.unknown name hknown).symm.trans hdone
      | some v =>
          injection (hholds.found name v hknown).symm.trans hdone with huser
          rw [huser]

/-- Signing in changes nothing, whether the store can be relied on or not. -/
theorem state_signIn_withFaults {passwords : PasswordScheme} {key : String} {now : Instant}
    {userFaults : CredentialFaults} {orderFaults : OrderFaults} (t : Tables)
    (occasion : Occasion) {r : Request}
    (hroute : route r.target.path r.method = .found .signIn) :
    (work ((inMemory passwords key now).withFaults userFaults orderFaults) occasion r t).state =
      t := by
  have hkeeps : ∀ name, Action.Keeps (fun _ : Tables => True) id
      (((Tables.userStore now).withFaults userFaults).findByUsername name) :=
    fun name t _ => ⟨trivial, (found_in_tables name).2⟩
  rw [work, hroute]
  exact (signIn_of (Action.Keeps.closed _ id) hkeeps r t trivial).2

end SignIn

/-- **A password leaves no trace but its verdict.**  Whatever the stores hold, and whichever of
their operations fail: two registrations that differ in their passwords alone, both long enough
or neither, cannot be told apart by what is answered and written, and the tables they leave
differ in the stored text of the new user.  Two attempts to sign in that differ in their
passwords alone, on which what is stored gives one verdict, cannot be told apart either, and
change nothing. -/
theorem passwords_leave_no_trace (passwords : PasswordScheme) (key : String)
    (userFaults : CredentialFaults) (orderFaults : OrderFaults) (t : Tables) (now : Instant)
    (o₁ o₂ : Occasion) (h₁ : o₁.now = now) (h₂ : o₂.now = now) (r₁ r₂ : Request) :
    let services := (inMemory passwords key now).withFaults userFaults orderFaults
    (∀ username email p₁ p₂ : String,
      route r₁.target.path r₁.method = .found .signUp →
      route r₂.target.path r₂.method = .found .signUp →
      readBody SignUp.decode r₁ = .ok ⟨email, p₁, username⟩ →
      readBody SignUp.decode r₂ = .ok ⟨email, p₂, username⟩ →
      (6 ≤ p₁.length ↔ 6 ≤ p₂.length) →
      Indistinct (Forked t) (traced services o₁ r₁ t) (traced services o₂ r₂ t)) ∧
    ∀ username p₁ p₂ : String,
      route r₁.target.path r₁.method = .found .signIn →
      route r₂.target.path r₂.method = .found .signIn →
      readBody SignIn.decode r₁ = .ok ⟨username, p₁⟩ →
      readBody SignIn.decode r₂ = .ok ⟨username, p₂⟩ → p₁ ≠ "" → p₂ ≠ "" →
      (∀ u, named (knownIn t.users) username = some u →
        passwords.accepts u.passwordHash p₁ = passwords.accepts u.passwordHash p₂) →
      Indistinct (fun s s' => s = t ∧ s' = t) (traced services o₁ r₁ t)
        (traced services o₂ r₂ t) := by
  intro services
  refine ⟨?_, ?_⟩
  · intro username email p₁ p₂ hroute₁ hroute₂ hbody₁ hbody₂ hlength
    exact indistinct_of_work (.inl hroute₁) (.inl hroute₂)
      (signUp_indistinct hroute₁ hroute₂ hbody₁ hbody₂ hlength)
  · intro username p₁ p₂ hroute₁ hroute₂ hbody₁ hbody₂ hp₁ hp₂ hverdict
    refine indistinct_of_work (.inr hroute₁) (.inr hroute₂) ?_
    have hwork : work services o₁ r₁ t = work services o₂ r₂ t := by
      refine signIn_congr (h₁.trans h₂.symm) hroute₁ hroute₂ hbody₁ hbody₂ hp₁ hp₂ ?_
      intro name u hname hdone
      refine hverdict u ?_
      rw [named, hname]
      exact (found_in_tables name).1 u hdone
    rw [hwork]
    have hstate : (work services o₂ r₂ t).state = t := state_signIn_withFaults t o₂ hroute₂
    exact ⟨rfl, rfl, hstate, hstate⟩

/-- Bob asks to be registered with this password. -/
def bobWith (password : String) : Request :=
  registering ("\x7b\"email\":\"bob@example.org\",\"password\":\"" ++ password ++
    "\",\"username\":\"bob\"\x7d")

/-- Somebody tries to sign in as Alice with this password. -/
def aliceWith (password : String) : Request :=
  signingIn ("\x7b\"username\":\"alice\",\"password\":\"" ++ password ++ "\"\x7d")

/-- The services that Alice has registered with. -/
def atDaybreak : Services Tables := (inMemory Accounts.plain "k" .epoch).withFaults {} {}

/-- It cannot be seen with which password Bob registers, or which wrong one is tried on Alice. -/
theorem bob_and_alice_leave_no_trace :
    Indistinct (Forked withAlice) (traced atDaybreak daybreak (bobWith "secret") withAlice)
      (traced atDaybreak daybreak (bobWith "open sesame") withAlice) ∧
    Indistinct (fun s s' => s = withAlice ∧ s' = withAlice)
      (traced atDaybreak daybreak (aliceWith "stolen") withAlice)
      (traced atDaybreak daybreak (aliceWith "guessed") withAlice) := by
  refine ⟨?_, ?_⟩
  · obtain ⟨hsignUp, -⟩ := passwords_leave_no_trace Accounts.plain "k" {} {} withAlice .epoch
      daybreak daybreak rfl rfl (bobWith "secret") (bobWith "open sesame")
    exact hsignUp "bob" "bob@example.org" "secret" "open sesame" (by decide +kernel)
      (by decide +kernel) (by decide +kernel) (by decide +kernel) (by decide)
  · obtain ⟨-, hsignIn⟩ := passwords_leave_no_trace Accounts.plain "k" {} {} withAlice .epoch
      daybreak daybreak rfl rfl (aliceWith "stolen") (aliceWith "guessed")
    refine hsignIn "alice" "stolen" "guessed" (by decide +kernel) (by decide +kernel)
      (by decide +kernel) (by decide +kernel) (by decide) (by decide) ?_
    intro u hnamed
    have hstored : (named (knownIn withAlice.users) "alice").map User.passwordHash =
        some "secret" := by decide +kernel
    rw [hnamed] at hstored
    injection hstored with hstored
    rw [hstored]
    decide

end OrderDesk.Api
