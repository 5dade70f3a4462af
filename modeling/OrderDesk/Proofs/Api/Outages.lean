/-
An outage is told as an outage.

A store can fail in ways that mean something to the caller, because there is no such thing or
because it is there already, and in ways that do not.  On the way to the caller a failure passes
through a service and through the table of error kinds, and each of them may give it another
meaning.  What is meant to come of it is written down here once more, as a `Fate`: it depends on
nothing but how the call of the store ended, and in the case of signing in on the password.

A request `Follows` its call when it meets that fate, leaves the state that the call has left,
and adds to what the call has written.  The entry that announces a success is among what is
added exactly when there is a success to announce.
-/
import OrderDesk.Proofs.Api.Accounts
import OrderDesk.Proofs.Api.Shape

namespace OrderDesk.Api

open OrderDesk.Accounts (Application accepted registeredEntry signedInEntry)
open OrderDesk.Http
open OrderDesk.Memory (Reply)

/-! ### What is to come of a call -/

/-- The status and the code that tell of a failure of a store. -/
def toldOf : StoreError → Nat × String
  | .notFound => (404, "NOT_FOUND")
  | .conflict _ => (409, "CONFLICT")
  | .timeout _ _ => (503, "TIMEOUT")
  | .database _ | .dataCorruption _ => (500, "INTERNAL_ERROR")

/-- The store has failed, and not because of what is in it. -/
def IsOutage (e : StoreError) : Prop := e ≠ .notFound ∧ ∀ text, e ≠ .conflict text

/-- What is to come of a request. -/
inductive Fate where
  /-- It is told as a success, and announced if there is anything to announce. -/
  | success (announcement : Option LogEntry)
  | failure (status : Nat) (code : String)
  | abandoned
  deriving DecidableEq, Repr

/-- A failure of a store is told with its status and its code. -/
def Fate.ofError (e : StoreError) : Fate := .failure (toldOf e).1 (toldOf e).2

/-- What is to come of a request whose call ends in this way. -/
def fateOf {α : Type} (announcement : α → Option LogEntry) : Ending StoreError α → Fate
  | .done a => .success (announcement a)
  | .failed e => .ofError e
  | .aborted => .abandoned

/-- What is to come of signing in, when the store is asked for the user and that ends in this way.
That there is no such user is told like a wrong password.  A token that would never expire is
given up. -/
def signInFate {σ : Type} (service : Accounts σ) (now : Instant) (password : String) :
    Ending StoreError User → Fate
  | .done u =>
    if service.passwords.accepts u.passwordHash password then
      match Bearer.issue service.signingKey u.id now with
      | some _ => .success (some (signedInEntry u.id))
      | none => .abandoned
    else .failure 401 "AUTHENTICATION_FAILED"
  | .failed .notFound => .failure 401 "AUTHENTICATION_FAILED"
  | .failed e => .ofError e
  | .aborted => .abandoned

/-- The messages of the entries that announce what has been done. -/
def announcements : List String :=
  ["order created", "order updated", "order deleted", "user registered", "user signed in"]

/-- The entry announces that something has been done. -/
def Announces (entry : LogEntry) : Prop := entry.message ∈ announcements

instance (entry : LogEntry) : Decidable (Announces entry) := by
  unfold Announces
  infer_instance

/-! ### What comes of it -/

/-- A request is answered with a success. -/
def Succeeds {σ : Type} (step : Step σ Empty Answer) : Prop :=
  ∃ a, step.ending = .done a ∧ Success a.response

/-- A request that has made this call meets this fate, and does nothing else.  `announced` says
whether such a request is announced when it succeeds. -/
structure Follows {σ α : Type} (r : Request) (call : Step σ StoreError α) (fate : Fate)
    (announced : Prop) (step : Step σ Empty Answer) : Prop where
  state : step.state = call.state
  success_iff : Succeeds step ↔ ∃ announcement, fate = .success announcement
  failure : ∀ status code, fate = .failure status code →
    ∃ a, step.ending = .done a ∧ a.response.status = status ∧
      (r.method ≠ "HEAD" → Tells a.response.body code)
  abandoned : fate = .abandoned → step.ending = .aborted
  /-- What is announced is what there is to announce. -/
  log : ∃ own, step.log = call.log ++ own ∧
    (∀ entry, Announces entry → (entry ∈ own ↔ fate = .success (some entry))) ∧
    ((∃ entry ∈ own, Announces entry) ↔ announced ∧ Succeeds step)

/-- How work that has written this ends, when this is its fate. -/
inductive Fulfils : Fate → Ending ApiError Response → List LogEntry → Prop
  | success {announcement : Option LogEntry} {response : Response} (h : Success response) :
      Fulfils (.success announcement) (.done response) announcement.toList
  | failure {e : ApiError} {own : List LogEntry} (hsilent : ∀ entry ∈ own, ¬Announces entry) :
      Fulfils (.failure e.kind.status e.kind.code) (.failed e) own
  | abandoned : Fulfils .abandoned .aborted []

theorem not_announces_entry (e : ApiError) : ¬Announces e.entry := by
  unfold ApiError.entry
  split
  · exact (by decide : "Request error" ∉ announcements)
  · exact (by decide : "Request rejected" ∉ announcements)

section Fulfils

variable {fate : Fate} {ending : Ending ApiError Response} {own : List LogEntry}
  {announced : Prop}

theorem Fulfils.success_iff (h : Fulfils fate ending own) :
    (∃ response, outcomeOf ending = .done response ∧ Success response) ↔
      ∃ announcement, fate = .success announcement := by
  cases h with
  | success hsuccess => exact ⟨fun _ => ⟨_, rfl⟩, fun _ => ⟨_, rfl, hsuccess⟩⟩
  | @failure e =>
      refine ⟨?_, fun ⟨_, h⟩ => nomatch h⟩
      rintro ⟨response, hresponse, hsuccess⟩
      cases hresponse
      exact absurd hsuccess (not_success_of_error e)
  | abandoned => exact ⟨fun ⟨_, h, _⟩ => (nomatch h), fun ⟨_, h⟩ => (nomatch h)⟩

/-- Nothing is announced but what there is to announce. -/
theorem Fulfils.announces_iff (h : Fulfils fate ending own) {entry : LogEntry}
    (hannounces : Announces entry) :
    entry ∈ own ++ failureLog ending ↔ fate = .success (some entry) := by
  cases h with
  | success =>
      rw [failureLog, List.append_nil, Option.mem_toList, Fate.success.injEq]
  | @failure e own hsilent =>
      constructor
      · intro hmem
        obtain hown | hentry := List.mem_append.mp hmem
        · exact absurd hannounces (hsilent entry hown)
        · rw [List.mem_singleton.mp hentry] at hannounces
          exact absurd hannounces (not_announces_entry e)
      · intro hfate
        cases hfate
  | abandoned =>
      constructor
      · intro hmem
        cases hmem
      · intro hfate
        cases hfate

theorem succeeds_serve_iff :
    Succeeds (serve services occasion r s) ↔
      ∃ response, outcomeOf (work services occasion r s).ending = .done response ∧
        Success response := by
  constructor
  · rintro ⟨a, ha, hsuccess⟩
    obtain ⟨response, hresponse, hsent⟩ := work_of_serve ha
    rw [hsent, success_dispatched] at hsuccess
    exact ⟨response, hresponse, hsuccess⟩
  · rintro ⟨response, hresponse, hsuccess⟩
    obtain ⟨a, ha, hsent⟩ := serve_of_outcome hresponse
    refine ⟨a, ha, ?_⟩
    rw [hsent, success_dispatched]
    exact hsuccess

/-- Work that fulfils its fate is answered accordingly. -/
theorem follows_of_work
    (hwork : work services occasion r s = ⟨ending, call.log ++ own, call.state⟩)
    (h : Fulfils fate ending own)
    (hannounced : ∀ announcement, fate = .success announcement →
      (announced ↔ ∃ entry ∈ announcement, Announces entry)) :
    Follows r call fate announced (serve services occasion r s) := by
  have hsuccess : Succeeds (serve services occasion r s) ↔
      ∃ announcement, fate = .success announcement := by
    rw [succeeds_serve_iff, hwork]
    exact h.success_iff
  refine ⟨?_, hsuccess, ?_, ?_, own ++ failureLog ending, ?_, fun entry => h.announces_iff, ?_⟩
  · rw [state_serve, hwork]
  · rintro status code rfl
    cases h with
    | @failure e own _ =>
        obtain ⟨a, ha, hsent⟩ := serve_of_failed (congrArg Step.ending hwork)
        refine ⟨a, ha, ?_, ?_⟩
        · rw [hsent, status_dispatched]
          rfl
        · intro hmethod
          rw [hsent, body_dispatched, if_neg hmethod]
          exact tells_body e
  · rintro rfl
    cases h with
    | abandoned =>
        rw [serve_eq, hwork]
        rfl
  · rw [log_serve, hwork, List.append_assoc]
  · rw [hsuccess]
    constructor
    · rintro ⟨entry, hmem, hannounces⟩
      have hfate := (h.announces_iff hannounces).mp hmem
      exact ⟨(hannounced _ hfate).mpr ⟨entry, rfl, hannounces⟩, _, hfate⟩
    · rintro ⟨hloud, announcement, hfate⟩
      obtain ⟨entry, rfl, hannounces⟩ := (hannounced _ hfate).mp hloud
      exact ⟨entry, (h.announces_iff hannounces).mpr hfate, hannounces⟩

end Fulfils

/-! ### Every operation meets its fate -/

/-- The table of failures agrees with the table of error kinds. -/
theorem toldOf_eq (e : StoreError) : toldOf e = ((kindOfStore e).status, (kindOfStore e).code) := by
  cases e <;> rfl

/-- An error of the kind that a failure of a store has is what is to come of the failure. -/
theorem fulfils_ofError {e : ApiError} {cause : StoreError} (h : e.kind = kindOfStore cause) :
    Fulfils (.ofError cause) (.failed e) [] := by
  rw [Fate.ofError, toldOf_eq, ← h]
  exact .failure fun _ h => nomatch h

theorem fulfils_order (q : Orders.Request) (ending : Ending StoreError Reply) :
    Fulfils (fateOf q.announcement ending) (carried q ending) (q.written ending) := by
  cases ending with
  | done reply => exact .success (told_success q reply)
  | failed e => exact fulfils_ofError rfl
  | aborted => exact .abandoned

theorem fulfils_signUp (ending : Ending StoreError UserId) :
    Fulfils (fateOf (fun id => some (registeredEntry id)) ending) (registered ending)
      (Action.announced registeredEntry ending) := by
  cases ending with
  | done id => exact .success (success_json (by decide) _)
  | failed e =>
      have hkind : (ApiError.auth (Accounts.ofCreateError e)).kind = kindOfStore e := by
        cases e <;> rfl
      exact fulfils_ofError hkind
  | aborted => exact .abandoned

/-- Who fails to sign in is told so, and nothing is announced. -/
theorem fulfils_rejected {entry : LogEntry} (h : entry.message = "login rejected") :
    Fulfils (.failure 401 "AUTHENTICATION_FAILED") (.failed (.auth .invalidCredentials))
      [entry] := by
  refine @Fulfils.failure (.auth .invalidCredentials) _ ?_
  intro other hother
  rw [List.mem_singleton.mp hother, Announces, h]
  decide

theorem fulfils_signIn (service : Accounts σ) (now : Instant) (name password : String)
    (ending : Ending StoreError User) :
    Fulfils (signInFate service now password ending)
      (signedIn (service.verdict now name password ending).1)
      (service.verdict now name password ending).2 := by
  cases ending with
  | done u =>
      unfold signInFate Accounts.verdict
      by_cases haccepts : service.passwords.accepts u.passwordHash password = true
      · simp only [if_pos haccepts]
        cases Bearer.issue service.signingKey u.id now with
        | some issued => exact .success (success_json (by decide) _)
        | none => exact .abandoned
      · simp only [if_neg haccepts]
        exact fulfils_rejected rfl
  | failed e =>
      cases e with
      | notFound => exact fulfils_rejected rfl
      | database | dataCorruption | conflict | timeout => exact fulfils_ofError rfl
  | aborted => exact .abandoned

/-! Whatever is announced is announced in words that say so. -/

theorem announced_order {q : Orders.Request} {store : OrderStore σ}
    {announcement : Option LogEntry}
    (h : fateOf q.announcement (q.call.on store s).ending = .success announcement) :
    q.changes = true ↔ ∃ entry ∈ announcement, Announces entry := by
  cases hcall : (q.call.on store s).ending with
  | done reply =>
      rw [hcall] at h
      cases h
      rw [← Orders.Request.isSome_announcement hcall, Option.isSome_iff_exists]
      refine ⟨?_, fun ⟨entry, hentry, _⟩ => ⟨entry, hentry⟩⟩
      rintro ⟨entry, hentry⟩
      refine ⟨entry, hentry, ?_⟩
      unfold Orders.Request.announcement at hentry
      split at hentry
      · cases hentry
        exact (by decide : "order created" ∈ announcements)
      · cases hentry
        exact (by decide : "order updated" ∈ announcements)
      · cases hentry
        exact (by decide : "order deleted" ∈ announcements)
      · cases hentry
  | failed e =>
      rw [hcall] at h
      cases h
  | aborted =>
      rw [hcall] at h
      cases h

theorem announced_signUp {ending : Ending StoreError UserId} {announcement : Option LogEntry}
    (h : fateOf (fun id => some (registeredEntry id)) ending = .success announcement) :
    True ↔ ∃ entry ∈ announcement, Announces entry := by
  cases ending with
  | done id =>
      cases h
      exact ⟨fun _ => ⟨_, rfl, (by decide : "user registered" ∈ announcements)⟩, fun _ => trivial⟩
  | failed e => cases h
  | aborted => cases h

theorem announced_signIn {service : Accounts σ} {now : Instant} {password : String}
    {ending : Ending StoreError User} {announcement : Option LogEntry}
    (h : signInFate service now password ending = .success announcement) :
    True ↔ ∃ entry ∈ announcement, Announces entry := by
  refine ⟨fun _ => ?_, fun _ => trivial⟩
  unfold signInFate at h
  split at h
  · split at h
    · split at h
      · cases h
        exact ⟨_, rfl, (by decide : "user signed in" ∈ announcements)⟩
      · cases h
    · cases h
  · cases h
  · cases h
  · cases h

/-- **Failures of the stores keep their meaning.**  Whatever the stores do, a request about
orders that can be read and whose caller is known, a valid registration, and signing in under a
name with a password each make one call, and meet the fate that goes with how the call ends.
What is no fault of the caller is told as such. -/
theorem failures_keep_their_meaning (services : Services σ) (occasion : Occasion) (r : Request)
    (s : σ) :
    (∀ what user wish, route r.target.path r.method = .found (.order what) →
      Admitted services.accounts.signingKey occasion.now (r.header? "authorization") user →
      asked r what = .ok wish →
      let q := wish.request occasion.now user
      let call := q.call.on services.orders.store s
      Follows r call (fateOf q.announcement call.ending) (q.changes = true)
        (serve services occasion r s)) ∧
    (∀ body username email, route r.target.path r.method = .found .signUp →
      readBody SignUp.decode r = .ok body →
      Application.Valid ⟨body.username, body.email, body.password⟩ username email →
      let call := services.accounts.users.create
        (accepted services.accounts.passwords occasion.salt body.password username email) s
      Follows r call (fateOf (fun id => some (registeredEntry id)) call.ending) True
        (serve services occasion r s)) ∧
    (∀ body username, route r.target.path r.method = .found .signIn →
      readBody SignIn.decode r = .ok body → missingIn body = none →
      Username.parse body.username = .ok username →
      let call := services.accounts.users.findByUsername username s
      Follows r call (signInFate services.accounts occasion.now body.password call.ending) True
        (serve services occasion r s)) ∧
    ∀ e, IsOutage e → toldOf e = (500, "INTERNAL_ERROR") ∨ toldOf e = (503, "TIMEOUT") := by
  refine ⟨?_, ?_, ?_, ?_⟩
  · intro what user wish hroute hadmitted hasked q call
    have hwork := work_of_caller hroute (identify_of_admitted hadmitted)
    rw [serveOrder_eq, hasked] at hwork
    refine follows_of_work ?_ (fulfils_order q call.ending) fun _ => announced_order
    rw [hwork]
    exact carryOut_call services q s
  · intro body username email hroute hbody hvalid call
    exact follows_of_work (signUp_call hroute hbody hvalid) (fulfils_signUp call.ending)
      fun _ => announced_signUp
  · intro body username hroute hbody hfilled hname call
    exact follows_of_work (signIn_call hroute hbody hfilled hname)
      (fulfils_signIn services.accounts occasion.now body.username body.password call.ending)
      fun _ => announced_signIn
  · rintro e ⟨hfound, hfree⟩
    cases e with
    | notFound => exact absurd rfl hfound
    | conflict text => exact absurd rfl (hfree text)
    | timeout operation limit => exact .inr rfl
    | database cause => exact .inl rfl
    | dataCorruption text => exact .inl rfl

/-- Stores that cannot be relied on: one is slow, one is gone, and one has spoilt its rows. -/
def broken : Services Tables :=
  (inMemory Accounts.plain "k" .epoch).withFaults
    { create := some (.database .lostConnection)
      findByUsername := some (.dataCorruption "invalid username") }
    { findOne := some (.timeout Operation.findOrder QueryPolicy.usual.timeout) }

/-- Bob asks to be registered. -/
def bobRegisters : Request :=
  registering "\x7b\"email\":\"bob@example.org\",\"password\":\"secret\",\"username\":\"bob\"\x7d"

/-- Bob signs in. -/
def bobSignsIn : Request := signingIn "\x7b\"username\":\"bob\",\"password\":\"secret\"\x7d"

/-- Seven is told that the store is slow, and gets a new order, as far as the stores can be relied
on; Bob is told that nothing works. -/
theorem broken_stores_are_told :
    (∃ a, (serve broken daybreak (sent ⟨7⟩ "GET" "/order/1" "") .empty).ending = .done a ∧
      a.response.status = 503 ∧ Tells a.response.body "TIMEOUT") ∧
    Succeeds (serve broken daybreak (sent ⟨7⟩ "POST" "/order" "\x7b\x7d") .empty) ∧
    (∃ a, (serve broken daybreak bobRegisters .empty).ending = .done a ∧
      a.response.status = 500 ∧ Tells a.response.body "INTERNAL_ERROR") ∧
    (∃ a, (serve broken daybreak bobSignsIn .empty).ending = .done a ∧
      a.response.status = 500 ∧ Tells a.response.body "INTERNAL_ERROR") ∧
    toldOf (.database .lostConnection) ≠ (409, "CONFLICT") := by
  refine ⟨?_, ?_, ?_, ?_, ?_⟩
  · obtain ⟨horders, -, -, -⟩ := failures_keep_their_meaning broken daybreak
      (sent ⟨7⟩ "GET" "/order/1" "") .empty
    have hfollows := horders (.getByPath [0x31]) ⟨7⟩ (.get ⟨1⟩) (by decide +kernel)
      (admitted_sent ⟨7⟩ _ _ _) (by decide +kernel)
    obtain ⟨a, ha, hstatus, htells⟩ := hfollows.failure 503 "TIMEOUT" (by decide +kernel)
    exact ⟨a, ha, hstatus, htells (by decide)⟩
  · obtain ⟨horders, -, -, -⟩ := failures_keep_their_meaning broken daybreak
      (sent ⟨7⟩ "POST" "/order" "\x7b\x7d") .empty
    have hfollows := horders .create ⟨7⟩ (.create .initial) (by decide +kernel)
      (admitted_sent ⟨7⟩ _ _ _) (by decide +kernel)
    exact hfollows.success_iff.mpr ⟨some (Orders.createdEntry ⟨7⟩ ⟨1⟩ .initial), by decide +kernel⟩
  · obtain ⟨-, hsignUp, -, -⟩ := failures_keep_their_meaning broken daybreak bobRegisters .empty
    have hjudged : (Accounts.judge ⟨"bob", "bob@example.org", "secret"⟩).toOption.isSome := by
      decide +kernel
    obtain ⟨username, email, hvalid⟩ | ⟨e, hfault⟩ :=
      Accounts.valid_or_fault ⟨"bob", "bob@example.org", "secret"⟩
    · have hfollows := hsignUp ⟨"bob@example.org", "secret", "bob"⟩ username email
        (by decide +kernel) (by decide +kernel) hvalid
      obtain ⟨a, ha, hstatus, htells⟩ := hfollows.failure 500 "INTERNAL_ERROR" rfl
      exact ⟨a, ha, hstatus, htells (by decide)⟩
    · rw [Accounts.judge_of_fault hfault] at hjudged
      cases hjudged
  · obtain ⟨-, -, hsignIn, -⟩ := failures_keep_their_meaning broken daybreak bobSignsIn .empty
    have hparsed : (Username.parse "bob").toOption.isSome := by decide +kernel
    cases hname : Username.parse "bob" with
    | error cause =>
        rw [hname] at hparsed
        cases hparsed
    | ok username =>
        have hfollows := hsignIn ⟨"bob", "secret"⟩ username (by decide +kernel)
          (by decide +kernel) (by decide +kernel) hname
        obtain ⟨a, ha, hstatus, htells⟩ := hfollows.failure 500 "INTERNAL_ERROR" rfl
        exact ⟨a, ha, hstatus, htells (by decide)⟩
  · obtain ⟨-, -, -, houtage⟩ := failures_keep_their_meaning broken daybreak bobSignsIn .empty
    obtain htold | htold := houtage (.database .lostConnection) ⟨by simp, by simp⟩
    · rw [htold]
      decide
    · rw [htold]
      decide

end OrderDesk.Api
