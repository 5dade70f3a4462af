/-
No token, no orders.

Whoever asks for orders is first asked who they are, and the answer is in one header.  Either
the header carries a token that is valid for a user, or it is refused with a code that says what
is wrong with it.  Which of the two depends on the header, the key and the time, and the types
of `Admitted` and `Refused` say so: they have no other arguments.

A caller who is refused learns nothing else.  The request may be a good one or make no sense,
the order it names may exist or not: the answer is the same, and nothing is changed.  A caller
who is admitted is served as the user of the token, and as nobody else.
-/
import OrderDesk.Api.InMemory
import OrderDesk.Proofs.Api.Asked
import OrderDesk.Proofs.Bearer.Authentic
import OrderDesk.Proofs.Bearer.Credential

namespace OrderDesk.Api

open OrderDesk.Http

/-- The header carries a token that is valid for this user. -/
def Admitted (key : String) (now : Instant) (header : Option (List UInt8)) (user : UserId) :
    Prop :=
  ∃ token, Bearer.tokenOf header = .ok token ∧ Bearer.validate key token now = .ok user

/-- The header is refused, with this code and this message. -/
inductive Refused (key : String) (now : Instant) (header : Option (List UInt8)) :
    (code message : String) → Prop
  | missing (h : Bearer.tokenOf header = .error .missing) :
      Refused key now header "MISSING_CREDENTIAL" "Missing bearer token"
  | malformedHeader (h : Bearer.tokenOf header = .error .malformed) :
      Refused key now header "MALFORMED_CREDENTIAL"
        "Authorization header must be 'Bearer <token>'"
  | malformedToken {token : String} (h : Bearer.tokenOf header = .ok token)
      (htoken : Bearer.validate key token now = .error .malformed) :
      Refused key now header "MALFORMED_TOKEN" "Malformed token"
  | badSignature {token : String} (h : Bearer.tokenOf header = .ok token)
      (htoken : Bearer.validate key token now = .error .invalidSignature) :
      Refused key now header "INVALID_SIGNATURE" "Invalid token signature"
  | otherAlgorithm {token : String} (h : Bearer.tokenOf header = .ok token)
      (htoken : Bearer.validate key token now = .error .unexpectedAlgorithm) :
      Refused key now header "INVALID_SIGNATURE" "Invalid token signature"
  | expired {token : String} (h : Bearer.tokenOf header = .ok token)
      (htoken : Bearer.validate key token now = .error .expired) :
      Refused key now header "TOKEN_EXPIRED" "Token expired"

/-- What is shown to somebody who is refused. -/
def refusal (code message : String) : Nat × String :=
  (401, Json.writeObject [("error", Json.writeText message), ("code", Json.writeText code)])

/-- A request about orders with this header, and the application that it is sent to at this
time.  A request for the head of a resource is left out, because its answer has no body. -/
structure Visit (key : String) (now : Instant) (header : Option (List UInt8)) (σ : Type) where
  services : Services σ
  occasion : Occasion
  request : Request
  what : OrderRequest
  key_eq : services.accounts.signingKey = key
  now_eq : occasion.now = now
  header_eq : request.header? "authorization" = header
  route_eq : route request.target.path request.method = .found (.order what)
  method_ne : request.method ≠ "HEAD"

variable {key : String} {now : Instant} {header : Option (List UInt8)} {σ τ : Type}

namespace Visit

/-- What the caller is shown. -/
def shown (v : Visit key now header σ) (s : σ) : Ending Empty (Nat × String) :=
  (serve v.services v.occasion v.request s).ending.map Answer.shown

/-- The state that the request leads to. -/
def after (v : Visit key now header σ) (s : σ) : σ :=
  (serve v.services v.occasion v.request s).state

/-- The request is carried out as a wish of this user, if it can be read: the store of orders is
called once, on behalf of the user, and the caller is shown what comes back. -/
def ServesAs (v : Visit key now header σ) (user : UserId) : Prop :=
  match asked v.request v.what with
  | .error why => ∀ s,
      v.shown s = .done (400, why.response.body) ∧ v.after s = s
  | .ok wish => (wish.request now user).call.owner = user ∧ ∀ s,
      let step := (wish.request now user).call.on v.services.orders.store s
      v.shown s = (answerTo (wish.request now user) step.ending).map
          (fun response => (response.status, response.body)) ∧
        v.after s = step.state

end Visit

/-! ### The verdict about a header -/

/-- A token is valid for a user or refused, and there is a code for every way to be refused. -/
theorem refused_or_admitted (key : String) (now : Instant) (header : Option (List UInt8)) :
    (∃ code message, Refused key now header code message) ∨
      ∃ user, Admitted key now header user := by
  cases htoken : Bearer.tokenOf header with
  | error e =>
      cases e with
      | missing => exact .inl ⟨_, _, .missing htoken⟩
      | malformed => exact .inl ⟨_, _, .malformedHeader htoken⟩
  | ok token =>
      cases hverify : Bearer.verify key token with
      | error e =>
          have hvalidate := Bearer.validate_of_rejected hverify now
          obtain rfl | rfl | rfl := Bearer.isRejection_of_verify hverify
          · exact .inl ⟨_, _, .malformedToken htoken hvalidate⟩
          · exact .inl ⟨_, _, .badSignature htoken hvalidate⟩
          · exact .inl ⟨_, _, .otherAlgorithm htoken hvalidate⟩
      | ok claims =>
          have hvalidate := Bearer.validate_of_verify hverify now
          by_cases hnow : now.seconds < claims.expiresAt
          · rw [if_pos hnow] at hvalidate
            exact .inr ⟨_, token, htoken, hvalidate⟩
          · rw [if_neg hnow] at hvalidate
            exact .inl ⟨_, _, .expired htoken hvalidate⟩

variable {code message : String} {user : UserId} {r : Request}

theorem Refused.not_admitted (h : Refused key now header code message) :
    ¬Admitted key now header user := by
  rintro ⟨token, htoken, hvalid⟩
  cases h with
  | missing h | malformedHeader h =>
      rw [htoken] at h
      cases h
  | malformedToken h hrejected | badSignature h hrejected | otherAlgorithm h hrejected
  | expired h hrejected =>
      -- the header carries one token, which is not both valid and rejected
      obtain rfl := Except.ok.inj (htoken.symm.trans h)
      rw [hvalid] at hrejected
      cases hrejected

/-- A header is refused exactly when it admits nobody. -/
theorem refused_iff :
    (∃ code message, Refused key now header code message) ↔
      ∀ user, ¬Admitted key now header user := by
  constructor
  · rintro ⟨code, message, h⟩ user
    exact h.not_admitted
  · intro hnobody
    obtain hrefused | ⟨user, h⟩ := refused_or_admitted key now header
    · exact hrefused
    · exact absurd h (hnobody user)

theorem identify_of_token {token : String}
    (h : Bearer.tokenOf (r.header? "authorization") = .ok token) :
    identify key now r = ((Bearer.validate key token now).mapError .token).mapError .auth := by
  rw [identify, h]
  rfl

theorem identify_of_admitted (h : Admitted key now (r.header? "authorization") user) :
    identify key now r = .ok user := by
  obtain ⟨token, htoken, hvalidate⟩ := h
  rw [identify_of_token htoken, hvalidate]
  rfl

/-- Whatever is wrong with the header, it comes out as the error with its code. -/
theorem identify_of_refused (h : Refused key now (r.header? "authorization") code message) :
    ∃ e, identify key now r = .error e ∧
      (e.response.status, e.response.body) = refusal code message := by
  cases h with
  | missing h => exact ⟨.missingCredential, by rw [identify, h], rfl⟩
  | malformedHeader h => exact ⟨.malformedCredential, by rw [identify, h], rfl⟩
  | malformedToken h htoken => exact ⟨_, by rw [identify_of_token h, htoken]; rfl, rfl⟩
  | badSignature h htoken => exact ⟨_, by rw [identify_of_token h, htoken]; rfl, rfl⟩
  | otherAlgorithm h htoken => exact ⟨_, by rw [identify_of_token h, htoken]; rfl, rfl⟩
  | expired h htoken => exact ⟨_, by rw [identify_of_token h, htoken]; rfl, rfl⟩

/-- A caller is known exactly when the header admits somebody. -/
theorem identify_eq_ok_iff :
    identify key now r = .ok user ↔ Admitted key now (r.header? "authorization") user := by
  constructor
  · intro h
    obtain ⟨code, message, hrefused⟩ | ⟨other, hadmitted⟩ :=
      refused_or_admitted key now (r.header? "authorization")
    · obtain ⟨e, he, -⟩ := identify_of_refused hrefused
      cases h.symm.trans he
    · cases h.symm.trans (identify_of_admitted hadmitted)
      exact hadmitted
  · exact identify_of_admitted

/-! ### The way through the gate -/

namespace Visit

variable (v : Visit key now header σ) (s : σ)

theorem shown_eq :
    v.shown s = (outcomeOf (work v.services v.occasion v.request s).ending).map
      (fun response => (response.status, response.body)) := by
  rw [shown, shown_serve, shownOf_of_ne v.method_ne]

theorem after_eq : v.after s = (work v.services v.occasion v.request s).state :=
  (serve_work v.services v.occasion v.request s).2

theorem identify_eq :
    identify v.services.accounts.signingKey v.occasion.now v.request =
      identify key now v.request := by
  rw [v.key_eq, v.now_eq]

theorem of_refused (h : Refused key now header code message) :
    v.shown s = .done (refusal code message) ∧ v.after s = s := by
  rw [← v.header_eq] at h
  obtain ⟨e, hcaller, hshown⟩ := identify_of_refused h
  rw [← v.identify_eq] at hcaller
  rw [v.shown_eq, v.after_eq, work_of_stranger v.route_eq hcaller, ← hshown]
  exact ⟨rfl, rfl⟩

theorem of_admitted (h : Admitted key now header user) : v.ServesAs user := by
  rw [← v.header_eq] at h
  have hcaller := v.identify_eq.trans (identify_of_admitted h)
  have hlegible := asked_legible v.request v.what
  unfold ServesAs
  cases hasked : asked v.request v.what with
  | error why =>
      intro s
      rw [v.shown_eq, v.after_eq, work_of_unclear v.route_eq hcaller hasked, ← hlegible why hasked]
      cases why with
      | refused e => exact ⟨rfl, rfl⟩
      | noText => exact ⟨rfl, rfl⟩
  | ok wish =>
      refine ⟨wish.owner_request now user, ?_⟩
      intro s
      rw [v.shown_eq, v.after_eq, work_of_asked v.route_eq hcaller hasked, v.now_eq]
      simp only [carryOut_call, outcomeOf_carried, and_self]

end Visit

/-- **Orders are behind the gate.**  A header that admits nobody is refused with a code.  Who is
refused is shown that code, whatever else the request says and whatever the application holds,
and nothing is changed; so two requests with one header that admits nobody are shown the same.
Who is admitted is served as the user of the token. -/
theorem orders_are_guarded (key : String) (now : Instant) (header : Option (List UInt8)) :
    ((∃ code message, Refused key now header code message) ↔
      ∀ user, ¬Admitted key now header user) ∧
    (∀ code message, Refused key now header code message →
      ∀ (σ : Type) (v : Visit key now header σ) (s : σ),
        v.shown s = .done (refusal code message) ∧ v.after s = s) ∧
    ((∀ user, ¬Admitted key now header user) →
      ∀ (σ τ : Type) (v : Visit key now header σ) (w : Visit key now header τ) (s : σ) (t : τ),
        v.shown s = w.shown t) ∧
    ∀ user, Admitted key now header user →
      ∀ (σ : Type) (v : Visit key now header σ), v.ServesAs user := by
  refine ⟨refused_iff, ?_, ?_, ?_⟩
  · intro code message h σ v s
    exact v.of_refused s h
  · intro hnobody σ τ v w s t
    obtain ⟨code, message, h⟩ := refused_iff.mpr hnobody
    rw [(v.of_refused s h).1, (w.of_refused t h).1]
  · intro user h σ v
    exact v.of_admitted h

/-! Two users, whose tokens are signed with the key `k` and are valid until noon of the first
day. -/

/-- The beginning of 1970, with no random bytes. -/
def daybreak : Occasion := ⟨.epoch, [], Vector.replicate 16 0⟩

/-- A token of a user. -/
def tokenFor (user : UserId) : String := Bearer.sign "k" ⟨user.value, 0, 43200⟩

/-- A request of a user with a JSON body. -/
def sent (user : UserId) (method path body : String) : Request where
  method := method
  target := ⟨Text.Utf8.encode path, []⟩
  headers :=
    [("authorization", Text.Utf8.encode ("Bearer " ++ tokenFor user)),
     ("content-type", Text.Utf8.encode "application/json")]
  body := Text.Utf8.encode body

theorem admitted_sent (user : UserId) (method path body : String) :
    Admitted "k" .epoch ((sent user method path body).header? "authorization") user := by
  have hverify : Bearer.verify "k" (tokenFor user) = .ok ⟨user.value, 0, 43200⟩ :=
    Bearer.verify_sign "k" (by simp [Bearer.Claims.Fit, Bearer.signed64])
  exact ⟨tokenFor user, Bearer.tokenOf_sign "k" _, Bearer.validate_of_verify hverify .epoch⟩

theorem identify_sent (user : UserId) (method path body : String) :
    identify "k" daybreak.now (sent user method path body) = .ok user :=
  identify_of_admitted (admitted_sent user method path body)

/-- A request of a user about orders is led to its handler. -/
theorem work_sent (user : UserId) (method path body : String) {what : OrderRequest}
    (hroute : route (Text.Utf8.encode path) method = .found (.order what)) :
    work (inMemory Password.argon2 "k" .epoch) daybreak (sent user method path body) =
      serveOrder (inMemory Password.argon2 "k" .epoch) daybreak (sent user method path body)
        user what := by
  have hcaller : identify (inMemory Password.argon2 "k" .epoch).accounts.signingKey daybreak.now
      (sent user method path body) = .ok user := identify_sent user method path body
  exact work_of_caller hroute hcaller

/-- A change of an order whose number is no text, with a body that is no JSON text, by somebody
who does not say who it is. -/
def nonsense : Visit "k" .epoch none Tables where
  services := inMemory Password.argon2 "k" .epoch
  occasion := daybreak
  request :=
    { method := "PUT"
      target := ⟨Text.Utf8.encode "/order/%FF", []⟩
      headers := []
      body := Text.Utf8.encode "junk" }
  what := .update (Text.Utf8.encode "%FF")
  key_eq := rfl
  now_eq := rfl
  header_eq := rfl
  route_eq := by decide +kernel
  method_ne := by decide

/-- A request for all orders, by somebody who does not say who it is. -/
def curious : Visit "k" .epoch none Tables where
  services := inMemory Password.argon2 "k" .epoch
  occasion := daybreak
  request := ⟨"GET", ⟨Text.Utf8.encode "/order/orders", []⟩, [], []⟩
  what := .list
  key_eq := rfl
  now_eq := rfl
  header_eq := rfl
  route_eq := by decide +kernel
  method_ne := by decide

/-- A request of seven for the first order. -/
def asking :
    Visit "k" .epoch ((sent ⟨7⟩ "GET" "/order/1" "").header? "authorization") Tables where
  services := inMemory Password.argon2 "k" .epoch
  occasion := daybreak
  request := sent ⟨7⟩ "GET" "/order/1" ""
  what := .getByPath [0x31]
  key_eq := rfl
  now_eq := rfl
  header_eq := rfl
  route_eq := by decide +kernel
  method_ne := by decide

/-- Seven has an order. -/
def withOrder : Tables := ⟨.empty, Memory.OrderTable.empty.add ⟨7⟩ ⟨.pending, .epoch, .epoch⟩⟩

/-- Strangers are turned away with one answer, and seven is served. -/
theorem strangers_and_seven :
    (nonsense.shown .empty = .done (refusal "MISSING_CREDENTIAL" "Missing bearer token") ∧
      nonsense.after .empty = .empty) ∧
    nonsense.shown .empty = curious.shown withOrder ∧
    asking.ServesAs ⟨7⟩ := by
  obtain ⟨hverdict, hrefused, halike, -⟩ := orders_are_guarded "k" .epoch none
  obtain ⟨-, -, -, hserved⟩ := orders_are_guarded "k" .epoch
    ((sent ⟨7⟩ "GET" "/order/1" "").header? "authorization")
  have hmissing : Refused "k" .epoch none "MISSING_CREDENTIAL" "Missing bearer token" :=
    .missing rfl
  refine ⟨hrefused _ _ hmissing Tables nonsense .empty, ?_, ?_⟩
  · exact halike (hverdict.mp ⟨_, _, hmissing⟩) Tables Tables nonsense curious .empty withOrder
  · exact hserved ⟨7⟩ (admitted_sent ⟨7⟩ _ _ _) Tables asking

end OrderDesk.Api
