/-
Errors have one shape.

Whatever goes wrong with a request, its sender is told an object with a message and a code, and
the code comes with a status that callers can rely on.  Details are told exactly where the
request itself is at fault.  The table of codes is written down here once more, so that it can be
compared with what the application does.

There is one exception.  A part of the path that stands for no text is refused before anybody
asks what it means, and that refusal is a plain text.  Only a caller who is known gets so far.
-/
import OrderDesk.Proofs.Api.Gate
import OrderDesk.Proofs.Json.Written

namespace OrderDesk.Api

open OrderDesk.Http
open OrderDesk.Json (HasOnly IsObject IsValue Lexeme named)
open OrderDesk.Text

/-! ### The shape -/

/-- The codes that errors are told with, each with its status. -/
def taxonomy : List (String × Nat) :=
  [("VALIDATION_ERROR", 400), ("AUTHENTICATION_FAILED", 401), ("MISSING_CREDENTIAL", 401),
   ("MALFORMED_CREDENTIAL", 401), ("INVALID_SIGNATURE", 401), ("TOKEN_EXPIRED", 401),
   ("MALFORMED_TOKEN", 401), ("CONFLICT", 409), ("NOT_FOUND", 404), ("TIMEOUT", 503),
   ("INTERNAL_ERROR", 500)]

/-- These members tell of an error with this code.  There are details if the request is at fault,
and otherwise no member of that name at all. -/
structure TellsOf (members : List (String × List Lexeme)) (code : String) : Prop where
  error : ∃ text, HasOnly members "error" [.text (some text)]
  details : if code = "VALIDATION_ERROR" then ∃ text, HasOnly members "details" [.text (some text)]
    else named members "details" = []
  code : HasOnly members "code" [.text (some code)]

/-- The text is a JSON object that tells of an error with this code. -/
def Tells (body code : String) : Prop :=
  ∃ members, IsObject (Json.lexemes (Json.ofText body)) members ∧ TellsOf members code

/-- A response with this status and this body tells of an error that callers can know. -/
def HasShape (status : Nat) (body : String) : Prop :=
  ∃ code, (code, status) ∈ taxonomy ∧ Tells body code

/-! ### What is told -/

/-- An object of texts is read as it was written. -/
theorem isObject_texts {members : List (String × String)} (hne : members ≠ []) :
    IsObject
      (Json.lexemes (Json.ofText
        (Json.writeObject (members.map fun m => (m.1, Json.writeText m.2)))))
      (members.map fun m => (m.1, [Lexeme.text (some m.2)])) := by
  let whole (m : String × String) : String × String × List Lexeme :=
    (m.1, Json.writeText m.2, [.text (some m.2)])
  have hlexed : ∀ m ∈ members.map whole, Json.IsLexed m.2.1.toList m.2.2 := by
    intro m hm
    obtain ⟨n, -, rfl⟩ := List.mem_map.mp hm
    exact Json.isLexed_writeText n.2
  have hlexemes := Json.lexemes_writeObject hlexed (by simpa using hne)
  rw [List.map_map, List.map_map] at hlexemes
  refine ⟨?_, ?_⟩
  · rw [List.map_map]
    exact hlexemes
  · intro m hm
    obtain ⟨n, -, rfl⟩ := List.mem_map.mp hm
    exact .text (some n.2)

theorem code_eq_validation_iff (kind : ErrorKind) :
    kind.code = "VALIDATION_ERROR" ↔ kind = .validation := by
  cases kind <;> decide

/-- Details are told of what the request is at fault for, and of nothing else. -/
theorem details_isSome_iff (e : ApiError) : e.details.isSome ↔ e.kind = .validation := by
  cases e with
  | validation text => exact ⟨fun _ => rfl, fun _ => rfl⟩
  | auth cause =>
      by_cases h : kindOfAuth cause = .validation
      · simp [ApiError.details, ApiError.kind, h]
      · simp [ApiError.details, ApiError.kind, h]
  | order cause =>
      obtain ⟨operation, cause⟩ := cause
      cases cause <;> simp [ApiError.details, ApiError.kind, kindOfStore]
  | missingCredential => simp [ApiError.details, ApiError.kind]
  | malformedCredential => simp [ApiError.details, ApiError.kind]
  | internal text => simp [ApiError.details, ApiError.kind]

theorem mem_taxonomy (kind : ErrorKind) : (kind.code, kind.status) ∈ taxonomy := by
  cases kind <;> decide

/-- **Every error is told with its code.** -/
theorem tells_body (e : ApiError) : Tells e.body e.kind.code := by
  cases hdetails : e.details with
  | none =>
      have hcode : ¬e.kind.code = "VALIDATION_ERROR" := by
        rw [code_eq_validation_iff, ← details_isSome_iff, hdetails]
        exact Bool.false_ne_true
      have hbody : e.body = Json.writeObject
          ([("error", e.kind.publicMessage), ("code", e.kind.code)].map
            fun m => (m.1, Json.writeText m.2)) := by
        rw [ApiError.body, hdetails]
        rfl
      rw [hbody]
      exact ⟨_, isObject_texts (by simp), ⟨_, rfl⟩, by rw [if_neg hcode]; rfl, rfl⟩
  | some text =>
      have hcode : e.kind.code = "VALIDATION_ERROR" := by
        rw [code_eq_validation_iff, ← details_isSome_iff, hdetails]
        rfl
      have hbody : e.body = Json.writeObject
          ([("error", e.kind.publicMessage), ("code", e.kind.code), ("details", text)].map
            fun m => (m.1, Json.writeText m.2)) := by
        rw [ApiError.body, hdetails]
        rfl
      rw [hbody]
      exact ⟨_, isObject_texts (by simp), ⟨_, rfl⟩, by rw [if_pos hcode]; exact ⟨_, rfl⟩, rfl⟩

theorem hasShape_of_error (e : ApiError) : HasShape e.response.status e.response.body :=
  ⟨e.kind.code, mem_taxonomy e.kind, tells_body e⟩

/-- What is no object tells of no error. -/
theorem not_tells_of_head {body code : String}
    (h : (Json.lexemes (Json.ofText body)).head? ≠ some .openBrace) : ¬Tells body code := by
  rintro ⟨members, hobject, -⟩
  rw [hobject.lexemes] at h
  exact h rfl

/-! ### The exception -/

/-- The part of the path that a request about orders names an order by. -/
def OrderRequest.part? : OrderRequest → Option (List UInt8)
  | .getByPath part | .update part | .delete part => some part
  | .create | .getByQuery | .list => none

/-- A caller who is known names an order by a part of the path that stands for no text. -/
structure Garbled (key : String) (now : Instant) (r : Request) (endpoint : Endpoint) : Prop where
  caller : ∃ user, Admitted key now (r.header? "authorization") user
  noText : ∃ what part, endpoint = .order what ∧ what.part? = some part ∧
    Utf8.decode? (Url.percentDecode part) = none

theorem map_eq_error_iff {ε α β : Type} {f : α → β} {x : Except ε α} {e : ε} :
    x.map f = .error e ↔ x = .error e := by
  cases x <;> simp [Except.map]

theorem mapError_refused_ne_noText {α : Type} (x : Except ApiError α) :
    x.mapError Unclear.refused ≠ .error .noText := by
  cases x <;> simp [Except.mapError]

theorem numberInPath_eq_noText_iff (part : List UInt8) :
    numberInPath part = .error .noText ↔ Utf8.decode? (Url.percentDecode part) = none := by
  unfold numberInPath
  cases Utf8.decode? (Url.percentDecode part) with
  | none => simp
  | some text => simp [mapError_refused_ne_noText]

/-- A request asks for nothing that could be understood as soon as its path stands for no text,
and it is told so in this way for no other reason. -/
theorem asked_eq_noText_iff (r : Request) (what : OrderRequest) :
    asked r what = .error .noText ↔
      ∃ part, what.part? = some part ∧ Utf8.decode? (Url.percentDecode part) = none := by
  cases what with
  | create =>
      simp only [asked, map_eq_error_iff, OrderRequest.part?, mapError_refused_ne_noText,
        reduceCtorEq, false_and, exists_false]
  | getByQuery =>
      have hquery : numberInQuery r ≠ .error .noText := by
        unfold numberInQuery
        split
        · simp
        · split
          · simp
          · exact mapError_refused_ne_noText _
      simp only [asked, map_eq_error_iff, OrderRequest.part?, hquery, reduceCtorEq, false_and,
        exists_false]
  | list => simp [asked, OrderRequest.part?]
  | getByPath part =>
      simp only [asked, map_eq_error_iff, numberInPath_eq_noText_iff, OrderRequest.part?,
        Option.some.injEq, exists_eq_left']
  | update part =>
      simp only [asked, OrderRequest.part?, Option.some.injEq, exists_eq_left',
        ← numberInPath_eq_noText_iff]
      cases h : numberInPath part with
      | error why => simp
      | ok id =>
          simp only [map_eq_error_iff, mapError_refused_ne_noText, reduceCtorEq]
  | delete part =>
      simp only [asked, map_eq_error_iff, numberInPath_eq_noText_iff, OrderRequest.part?,
        Option.some.injEq, exists_eq_left']

/-! ### How work ends -/

section Work

variable {σ : Type} {services : Services σ} {occasion : Occasion} {r : Request} {s : σ}
  {response : Response}

/-- Work that ends in an answer whose status is fixed as a success is a success. -/
theorem success_of_bind {α : Type} {x : Action σ ApiError α} {status : Nat} {body : α → String}
    (hstatus : 200 ≤ status ∧ status < 300)
    (h : ((x >>= fun a => pure (Response.json status (body a))) s).ending = .done response) :
    Success response := by
  obtain ⟨a, -, hdone⟩ := Action.done_of_bind h
  cases hdone
  exact success_json hstatus _

theorem success_of_signUp (h : (signUp services occasion r s).ending = .done response) :
    Success response := by
  obtain ⟨body, -, hrest⟩ := Action.done_of_bind h
  exact success_of_bind (by decide) hrest

theorem success_of_signIn (h : (signIn services occasion r s).ending = .done response) :
    Success response := by
  obtain ⟨body, -, hrest⟩ := Action.done_of_bind h
  obtain ⟨_, -, hrest⟩ := Action.done_of_bind hrest
  exact success_of_bind (by decide) hrest

/-- A handler of orders that can read its request has a response for a success only. -/
theorem success_of_serveOrder {user : UserId} {what : OrderRequest}
    (hasked : asked r what ≠ .error .noText)
    (h : (serveOrder services occasion r user what s).ending = .done response) :
    Success response := by
  rw [serveOrder_eq] at h
  cases hwish : asked r what with
  | error why =>
      rw [hwish] at h
      cases why with
      | refused e => cases h
      | noText => exact absurd hwish hasked
  | ok wish =>
      simp only [hwish] at h
      rw [carryOut, Action.ending_map] at h
      obtain ⟨reply, -, rfl⟩ := Ending.map_eq_done.mp h
      exact told_success _ reply

/-- The caller of a garbled request is told so, whatever the application holds. -/
theorem work_of_garbled {endpoint : Endpoint}
    (hroute : route r.target.path r.method = .found endpoint)
    (h : Garbled services.accounts.signingKey occasion.now r endpoint) :
    work services occasion r = Action.done Unclear.noText.response := by
  obtain ⟨⟨user, hadmitted⟩, what, part, rfl, hpart⟩ := h
  rw [work_of_caller hroute (identify_of_admitted hadmitted), serveOrder_eq,
    (asked_eq_noText_iff r what).mpr ⟨part, hpart⟩]
  rfl

/-- What is answered without an error, at an endpoint where errors have their shape, is a success
unless the request was garbled. -/
theorem success_of_work {endpoint : Endpoint}
    (hroute : route r.target.path r.method = .found endpoint)
    (hscope : endpoint ≠ .health ∧ endpoint ≠ .readiness)
    (hclear : ¬Garbled services.accounts.signingKey occasion.now r endpoint)
    (h : (work services occasion r s).ending = .done response) : Success response := by
  cases endpoint with
  | health => exact absurd rfl hscope.1
  | readiness => exact absurd rfl hscope.2
  | signUp =>
      rw [work, hroute] at h
      exact success_of_signUp h
  | signIn =>
      rw [work, hroute] at h
      exact success_of_signIn h
  | order what =>
      cases hcaller : identify services.accounts.signingKey occasion.now r with
      | error e =>
          rw [work_of_stranger hroute hcaller] at h
          cases h
      | ok user =>
          rw [work_of_caller hroute hcaller] at h
          refine success_of_serveOrder ?_ h
          intro hasked
          obtain ⟨part, hpart⟩ := (asked_eq_noText_iff r what).mp hasked
          exact hclear ⟨⟨user, identify_eq_ok_iff.mp hcaller⟩, what, part, rfl, hpart⟩

end Work

/-- The plain text about a garbled path has not the shape of an error. -/
theorem not_hasShape_noText :
    ¬HasShape Unclear.noText.response.status Unclear.noText.response.body := by
  rintro ⟨code, -, htells⟩
  exact not_tells_of_head (by decide +kernel) htells

/-- **Errors have one shape, but for garbled paths.**  Whoever registers, signs in or asks about
orders and is not told of a success is told an object with a message and a code, with the status
that goes with the code, and with details exactly where the request is at fault.  The exception
is a caller who is known and names an order by a part of the path that stands for no text: such a
caller is told a plain text, which has not this shape. -/
theorem errors_have_one_shape {σ : Type} (services : Services σ) (occasion : Occasion)
    (r : Request) {endpoint : Endpoint}
    (hroute : route r.target.path r.method = .found endpoint)
    (hscope : endpoint ≠ .health ∧ endpoint ≠ .readiness) (hmethod : r.method ≠ "HEAD") (s : σ)
    {a : Answer} (ha : (serve services occasion r s).ending = .done a) :
    (Success a.response ∨ HasShape a.response.status a.response.body ↔
      ¬Garbled services.accounts.signingKey occasion.now r endpoint) ∧
    (Garbled services.accounts.signingKey occasion.now r endpoint →
      a.shown = (400, "Invalid URL: Invalid UTF-8 in `id`")) := by
  obtain ⟨response, hresponse, hsent⟩ := work_of_serve ha
  have hbody : a.response.body = response.body := by
    rw [hsent, body_dispatched, if_neg hmethod]
  have hstatus : a.response.status = response.status := by
    rw [hsent, status_dispatched]
  rw [hsent, success_dispatched, ← hsent, Answer.shown, hbody, hstatus]
  by_cases hgarbled : Garbled services.accounts.signingKey occasion.now r endpoint
  · rw [work_of_garbled hroute hgarbled] at hresponse
    cases hresponse
    refine ⟨⟨?_, fun hclear => absurd hgarbled hclear⟩, fun _ => rfl⟩
    rintro (hsuccess | hshape)
    · exact absurd hsuccess (not_success (by decide))
    · exact absurd hshape not_hasShape_noText
  · refine ⟨⟨fun _ => hgarbled, fun _ => ?_⟩, fun h => absurd h hgarbled⟩
    cases hwork : (work services occasion r s).ending with
    | done own =>
        rw [hwork] at hresponse
        cases hresponse
        exact .inl (success_of_work hroute hscope hgarbled hwork)
    | failed e =>
        rw [hwork] at hresponse
        cases hresponse
        exact .inr (hasShape_of_error e)
    | aborted =>
        rw [hwork] at hresponse
        cases hresponse

/-- Seven asks for the order whose number is a byte that is no text. -/
def garbled : Request := sent ⟨7⟩ "GET" "/order/%FF" ""

theorem route_garbled : route (Utf8.encode "/order/%FF") "GET" =
    .found (.order (.getByPath (Utf8.encode "%FF"))) := by
  decide +kernel

/-- What seven asks for cannot be read. -/
theorem work_garbled : (work (inMemory Password.argon2 "k" .epoch) daybreak garbled .empty).ending =
    .done Unclear.noText.response := by
  rw [garbled, work_sent _ _ _ _ route_garbled]
  decide +kernel

/-- Seven, who is known and gets no success, is not told of an error in the one shape. -/
theorem garbled_path_escapes :
    route garbled.target.path garbled.method =
      .found (.order (.getByPath (Utf8.encode "%FF"))) ∧
    garbled.method ≠ "HEAD" ∧
    ∃ a, (serve (inMemory Password.argon2 "k" .epoch) daybreak garbled .empty).ending = .done a ∧
      ¬Success a.response ∧ ¬HasShape a.response.status a.response.body := by
  obtain ⟨a, ha, hsent⟩ := serve_of_done work_garbled
  refine ⟨route_garbled, by decide, a, ha, ?_, ?_⟩
  · rw [hsent, success_dispatched]
    exact not_success (by decide)
  · rw [hsent, status_dispatched, body_dispatched, if_neg (by decide)]
    exact not_hasShape_noText

/-- Seven is told in the one shape that there is no first order, and otherwise about a garbled
path. -/
theorem seven_is_told :
    (∃ a, (serve (inMemory Password.argon2 "k" .epoch) daybreak (sent ⟨7⟩ "GET" "/order/1" "")
        .empty).ending = .done a ∧ ¬Success a.response ∧
      HasShape a.response.status a.response.body) ∧
    ∃ a, (serve (inMemory Password.argon2 "k" .epoch) daybreak garbled .empty).ending = .done a ∧
      a.shown = (400, "Invalid URL: Invalid UTF-8 in `id`") := by
  have hroute : route (Utf8.encode "/order/1") "GET" = .found (.order (.getByPath [0x31])) := by
    decide +kernel
  refine ⟨?_, ?_⟩
  · have hfailed : (work (inMemory Password.argon2 "k" .epoch) daybreak
        (sent ⟨7⟩ "GET" "/order/1" "") .empty).ending =
        .failed (.order ⟨"get order", .notFound⟩) := by
      rw [work_sent _ _ _ _ hroute]
      decide +kernel
    obtain ⟨a, ha, hsent⟩ := serve_of_failed hfailed
    have hrefused : ¬Success a.response := by
      rw [hsent, success_dispatched]
      exact not_success_of_error _
    have hclear : ¬Garbled "k" .epoch (sent ⟨7⟩ "GET" "/order/1" "")
        (.order (.getByPath [0x31])) := by
      rintro ⟨-, what, part, hwhat, hpart, hnone⟩
      cases hwhat
      cases hpart
      revert hnone
      decide +kernel
    obtain ⟨hshape, -⟩ := errors_have_one_shape (inMemory Password.argon2 "k" .epoch) daybreak _
      hroute (by decide) (by decide) .empty ha
    exact ⟨a, ha, hrefused, (hshape.mpr hclear).resolve_left hrefused⟩
  · obtain ⟨a, ha, -⟩ := serve_of_done work_garbled
    have hgarbled : Garbled "k" .epoch garbled (.order (.getByPath (Utf8.encode "%FF"))) :=
      ⟨⟨⟨7⟩, admitted_sent ⟨7⟩ _ _ _⟩, _, _, rfl, rfl, by decide +kernel⟩
    exact ⟨a, ha, (errors_have_one_shape (inMemory Password.argon2 "k" .epoch) daybreak _
      route_garbled (by decide) (by decide) .empty ha).2 hgarbled⟩

end OrderDesk.Api
