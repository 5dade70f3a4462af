/-
What an answer says.

Whatever a request asks for, it is answered in one way: some work is done, its value or its error
becomes a response, and the response gets the identifier of the request.  `work` is the work
alone, and `serve_eq` says how the answer comes from it.  So whoever wants to know how a
request is answered, or what it changes, looks at the work and not at the way to it.

The identifier of a request may be made from random bytes, so two answers to one request need
not have the same headers.  What an answer shows besides does not depend on chance.
-/
import OrderDesk.Api.Application
import OrderDesk.Proofs.Action

namespace OrderDesk.Api

open OrderDesk.Http

variable {σ : Type} {services : Services σ} {occasion : Occasion} {r : Request} {s : σ}

/-! ### The work behind an answer -/

/-- What is done about a request. -/
def work (services : Services σ) (occasion : Occasion) (r : Request) :
    Action σ ApiError Response :=
  match route r.target.path r.method with
  | .notFound => Action.done (.empty 404)
  | .methodNotAllowed allowed => Action.done ((Response.empty 405).withHeader "allow" allowed)
  | .found .health => Action.done (.plain 200 "ok")
  | .found .readiness => readiness services
  | .found .signUp => signUp services occasion r
  | .found .signIn => signIn services occasion r
  | .found (.order what) =>
    match identify services.accounts.signingKey occasion.now r with
    | .error e => Action.fail e
    | .ok user => serveOrder services occasion r user what

/-- Nothing is done about orders for somebody who is not known. -/
theorem work_of_stranger {what : OrderRequest} {e : ApiError}
    (hroute : route r.target.path r.method = .found (.order what))
    (hcaller : identify services.accounts.signingKey occasion.now r = .error e) :
    work services occasion r = Action.fail e := by
  rw [work, hroute]
  simp only [hcaller]

/-- A request about orders is led to its handler once the caller is known. -/
theorem work_of_caller {what : OrderRequest} {user : UserId}
    (hroute : route r.target.path r.method = .found (.order what))
    (hcaller : identify services.accounts.signingKey occasion.now r = .ok user) :
    work services occasion r = serveOrder services occasion r user what := by
  rw [work, hroute]
  simp only [hcaller]

/-- The caller who is named in a report.  Nobody is asked for a name but at the orders. -/
def callerOf (services : Services σ) (occasion : Occasion) (r : Request) : Option UserId :=
  match route r.target.path r.method with
  | .found (.order _) => (identify services.accounts.signingKey occasion.now r).toOption
  | _ => none

theorem serveRoute_eq (services : Services σ) (occasion : Occasion) (requestId : String)
    (r : Request) :
    serveRoute services occasion requestId r =
      conclude requestId (callerOf services occasion r) (work services occasion r) := by
  unfold serveRoute callerOf work
  cases route r.target.path r.method with
  | notFound => rfl
  | methodNotAllowed allowed => rfl
  | found endpoint =>
      cases endpoint with
      | health => rfl
      | readiness => rfl
      | signUp => rfl
      | signIn => rfl
      | order what =>
          simp only [serveEndpoint]
          cases identify services.accounts.signingKey occasion.now r with
          | error e => rfl
          | ok user => rfl

/-- The response that comes of some work. -/
def outcomeOf : Ending ApiError Response → Ending Empty Response
  | .done response => .done response
  | .failed e => .done e.response
  | .aborted => .aborted

/-- The answer that comes of some work: a response, and a report if it has failed. -/
def concluded (requestId : String) (caller : Option UserId) :
    Ending ApiError Response → Ending Empty Answer
  | .done response => .done ⟨response, none⟩
  | .failed e => .done ⟨e.response, e.report requestId caller⟩
  | .aborted => .aborted

/-- What is written about work that has failed. -/
def failureLog : Ending ApiError Response → List LogEntry
  | .failed e => [e.entry]
  | .done _ | .aborted => []

theorem response_concluded (requestId : String) (caller : Option UserId)
    (x : Ending ApiError Response) :
    (concluded requestId caller x).map Answer.response = outcomeOf x := by
  cases x <;> rfl

theorem conclude_work (requestId : String) (caller : Option UserId)
    (x : Action σ ApiError Response) (s : σ) :
    conclude requestId caller x s =
      ⟨concluded requestId caller (x s).ending, (x s).log ++ failureLog (x s).ending,
        (x s).state⟩ := by
  cases h : (x s).ending with
  | done response =>
      have hx : ((x.attempt : Action σ Empty _) s).ending = .done (.ok response) :=
        Action.attempt_of_done h
      rw [conclude, Action.bind_of_done hx]
      rfl
  | failed e =>
      have hx : ((x.attempt : Action σ Empty _) s).ending = .done (.error e) :=
        Action.attempt_of_failed h
      rw [conclude, Action.bind_of_done hx]
      rfl
  | aborted =>
      have hx : ((x.attempt : Action σ Empty _) s).ending = .aborted :=
        Action.attempt_of_aborted h
      rw [conclude, Action.bind_of_aborted hx, failureLog, List.append_nil]
      rfl

/-- A response as it is sent. -/
def dispatched (r : Request) (requestId : String) (response : Response) : Response :=
  RequestId.stamp requestId (if r.method = "HEAD" then response.withoutBody else response)

/-- An answer as it is sent. -/
def Answer.dispatched (r : Request) (requestId : String) (a : Answer) : Answer :=
  { a with response := Api.dispatched r requestId a.response }

/-- **An answer is what comes of the work.**  What is written is what the work writes, and an entry
about its failure. -/
theorem serve_eq (services : Services σ) (occasion : Occasion) (r : Request) (s : σ) :
    serve services occasion r s =
      let step := work services occasion r s
      let requestId := RequestId.ofRequest r occasion.idBytes
      ⟨(concluded requestId (callerOf services occasion r) step.ending).map
          (Answer.dispatched r requestId),
        step.log ++ failureLog step.ending, step.state⟩ := by
  have hserve : serve services occasion r =
      Answer.dispatched r (RequestId.ofRequest r occasion.idBytes) <$>
        serveRoute services occasion (RequestId.ofRequest r occasion.idBytes) r := rfl
  rw [hserve, Action.map_eq, serveRoute_eq]
  simp only [conclude_work]

theorem state_serve (services : Services σ) (occasion : Occasion) (r : Request) (s : σ) :
    (serve services occasion r s).state = (work services occasion r s).state := by
  rw [serve_eq]

theorem log_serve (services : Services σ) (occasion : Occasion) (r : Request) (s : σ) :
    (serve services occasion r s).log =
      (work services occasion r s).log ++ failureLog (work services occasion r s).ending := by
  rw [serve_eq]

theorem serve_work (services : Services σ) (occasion : Occasion) (r : Request) (s : σ) :
    (serve services occasion r s).ending.map Answer.response =
        (outcomeOf (work services occasion r s).ending).map
          (dispatched r (RequestId.ofRequest r occasion.idBytes)) ∧
      (serve services occasion r s).state = (work services occasion r s).state := by
  refine ⟨?_, state_serve services occasion r s⟩
  rw [serve_eq, ← response_concluded (RequestId.ofRequest r occasion.idBytes)
    (callerOf services occasion r), Ending.map_map, Ending.map_map]
  rfl

/-- Work that comes to a response is answered with it. -/
theorem serve_of_outcome {response : Response}
    (h : outcomeOf (work services occasion r s).ending = .done response) :
    ∃ a, (serve services occasion r s).ending = .done a ∧
      a.response = dispatched r (RequestId.ofRequest r occasion.idBytes) response := by
  have hserve := (serve_work services occasion r s).1
  rw [h] at hserve
  exact Ending.map_eq_done.mp hserve

theorem serve_of_done {response : Response}
    (h : (work services occasion r s).ending = .done response) :
    ∃ a, (serve services occasion r s).ending = .done a ∧
      a.response = dispatched r (RequestId.ofRequest r occasion.idBytes) response :=
  serve_of_outcome (by rw [h]; rfl)

/-- Work that fails is answered with its error. -/
theorem serve_of_failed {e : ApiError} (h : (work services occasion r s).ending = .failed e) :
    ∃ a, (serve services occasion r s).ending = .done a ∧
      a.response = dispatched r (RequestId.ofRequest r occasion.idBytes) e.response :=
  serve_of_outcome (by rw [h]; rfl)

/-- Every answer comes of work that has a response or fails. -/
theorem work_of_serve {a : Answer} (h : (serve services occasion r s).ending = .done a) :
    ∃ response, outcomeOf (work services occasion r s).ending = .done response ∧
      a.response = dispatched r (RequestId.ofRequest r occasion.idBytes) response := by
  have hserve := (serve_work services occasion r s).1
  rw [h] at hserve
  obtain ⟨response, hresponse, heq⟩ := Ending.map_eq_done.mp hserve.symm
  exact ⟨response, hresponse, heq.symm⟩

/-! ### What it shows -/

/-- The response says that what was asked for has been done. -/
def Success (response : Response) : Prop := 200 ≤ response.status ∧ response.status < 300

instance (response : Response) : Decidable (Success response) := by
  unfold Success
  infer_instance

theorem success_json {status : Nat} (h : 200 ≤ status ∧ status < 300) (body : String) :
    Success (.json status body) := h

theorem not_success {response : Response} (h : 300 ≤ response.status) : ¬Success response :=
  fun hsuccess => absurd hsuccess.2 (Nat.not_lt_of_le h)

/-- What went wrong is never told as a success. -/
theorem not_success_of_error (e : ApiError) : ¬Success e.response := by
  have hstatus : 300 ≤ e.kind.status := by cases e.kind <;> decide
  exact not_success hstatus

/-- The status and the body of an answer. -/
def Answer.shown (a : Answer) : Nat × String := (a.response.status, a.response.body)

@[simp] theorem status_dispatched (r : Request) (requestId : String) (response : Response) :
    (dispatched r requestId response).status = response.status := by
  rw [dispatched, RequestId.status_stamp]
  split <;> rfl

theorem success_dispatched (r : Request) (requestId : String) (response : Response) :
    Success (dispatched r requestId response) ↔ Success response := by
  rw [Success, status_dispatched, Success]

theorem body_dispatched (r : Request) (requestId : String) (response : Response) :
    (dispatched r requestId response).body = if r.method = "HEAD" then "" else response.body := by
  rw [dispatched, RequestId.body_stamp]
  split <;> rfl

/-- What an answer with this response shows. -/
def shownOf (r : Request) (response : Response) : Nat × String :=
  (response.status, if r.method = "HEAD" then "" else response.body)

theorem shownOf_of_ne (h : r.method ≠ "HEAD") :
    shownOf r = fun response => (response.status, response.body) := by
  funext response
  rw [shownOf, if_neg h]

theorem shown_serve (services : Services σ) (occasion : Occasion) (r : Request) (s : σ) :
    (serve services occasion r s).ending.map Answer.shown =
      (outcomeOf (work services occasion r s).ending).map (shownOf r) := by
  have hserve := congrArg (Ending.map fun response : Response => (response.status, response.body))
    (serve_work services occasion r s).1
  rw [Ending.map_map, Ending.map_map] at hserve
  refine hserve.trans ?_
  congr 1
  funext response
  rw [Function.comp_apply, status_dispatched, body_dispatched, shownOf]

end OrderDesk.Api
