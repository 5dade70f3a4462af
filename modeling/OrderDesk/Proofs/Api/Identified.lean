/-
Every response says which request it belongs to.

Whatever a request asks for, whether there is such a place and whether it is let in, its response
has one header with the identifier of the request.  The identifier is the one that the caller has
given, if that is of use, and otherwise one that is made for this request alone.

The identifier is a label and nothing more.  Two requests that differ in it, and in nothing else,
are served alike: the work that is done about them is the same work, so the same is answered,
written and stored.
-/
import OrderDesk.Proofs.Api.Discretion
import OrderDesk.Proofs.Api.Isolation
import OrderDesk.Proofs.Http.RequestId

namespace OrderDesk.Api

open OrderDesk.Http
open OrderDesk.Http.RequestId
open OrderDesk.Text

/-! ### Requests that differ in their identifier -/

/-- The requests differ in nothing but the headers that are to identify them. -/
structure Relabelled (r₁ r₂ : Request) : Prop where
  method : r₁.method = r₂.method
  target : r₁.target = r₂.target
  headers : r₁.headers.filter (fun h => h.1 ≠ headerName) =
    r₂.headers.filter fun h => h.1 ≠ headerName
  body : r₁.body = r₂.body

theorem lookup_filter_ne {name other : String} (hne : name ≠ other)
    (headers : List (String × List UInt8)) :
    (headers.filter fun h => h.1 ≠ other).lookup name = headers.lookup name := by
  induction headers with
  | nil => rfl
  | cons header rest ih =>
      obtain ⟨key, value⟩ := header
      by_cases hkey : key = other
      · subst hkey
        have hmiss : (name == key) = false := beq_eq_false_iff_ne.mpr hne
        rw [List.filter_cons_of_neg (by simp), ih, List.lookup_cons, hmiss]
      · rw [List.filter_cons_of_pos (by simpa using hkey), List.lookup_cons, List.lookup_cons, ih]

section Relabelled

variable {r₁ r₂ : Request} {o₁ o₂ : Occasion} {σ : Type} {services : Services σ}

theorem Relabelled.header?_eq (h : Relabelled r₁ r₂) {name : String} (hne : name ≠ headerName) :
    r₁.header? name = r₂.header? name := by
  rw [Request.header?, Request.header?, ← lookup_filter_ne hne, h.headers, lookup_filter_ne hne]

theorem Relabelled.identify_eq (h : Relabelled r₁ r₂) (key : String) (now : Instant) :
    identify key now r₁ = identify key now r₂ := by
  rw [identify, identify, h.header?_eq (by decide)]

theorem Relabelled.readBody_eq (h : Relabelled r₁ r₂) {α : Type}
    (decode : List (Option Char) → Except Json.Refusal α) :
    readBody decode r₁ = readBody decode r₂ := by
  have hjson : r₁.saysJson = r₂.saysJson := by
    rw [Request.saysJson, Request.saysJson, h.header?_eq (by decide)]
  rw [readBody, readBody, hjson, h.body]

theorem Relabelled.readQuery_eq (h : Relabelled r₁ r₂) : readQuery r₁ = readQuery r₂ := by
  rw [readQuery, readQuery, h.target]

theorem Relabelled.serveOrder_eq (h : Relabelled r₁ r₂) (occasion : Occasion) (user : UserId)
    (what : OrderRequest) :
    serveOrder services occasion r₁ user what = serveOrder services occasion r₂ user what := by
  cases what <;>
    simp only [serveOrder, createOrder, getByQuery, updateOrder, h.readBody_eq, h.readQuery_eq]

/-- **The same is done about requests that differ in their identifier.** -/
theorem Relabelled.work_eq (h : Relabelled r₁ r₂) (hnow : o₁.now = o₂.now)
    (hsalt : o₁.salt = o₂.salt) : work services o₁ r₁ = work services o₂ r₂ := by
  rw [work, work, h.target, h.method]
  cases route r₂.target.path r₂.method with
  | notFound => rfl
  | methodNotAllowed allowed => rfl
  | found endpoint =>
      cases endpoint with
      | health => rfl
      | readiness => rfl
      | signUp => simp only [signUp, h.readBody_eq, hsalt]
      | signIn => simp only [signIn, h.readBody_eq, hnow]
      | order what =>
          simp only [h.identify_eq, hnow]
          cases identify services.accounts.signingKey o₂.now r₂ with
          | error e => rfl
          | ok user =>
              simp only
              rw [h.serveOrder_eq, serveOrder_congr hnow]

theorem Relabelled.callerOf_eq (h : Relabelled r₁ r₂) (hnow : o₁.now = o₂.now) :
    callerOf services o₁ r₁ = callerOf services o₂ r₂ := by
  rw [callerOf, callerOf, h.target, h.method, h.identify_eq, hnow]

/-- Nothing but the identifier tells the answers apart. -/
theorem Relabelled.traced_eq (h : Relabelled r₁ r₂) (hnow : o₁.now = o₂.now)
    (hsalt : o₁.salt = o₂.salt) : traced services o₁ r₁ = traced services o₂ r₂ := by
  funext s
  have hmethod : r₁.method = "HEAD" ↔ r₂.method = "HEAD" := by rw [h.method]
  rw [traced, traced, Action.map_eq, Action.map_eq]
  simp only [serve_eq, h.work_eq hnow hsalt, h.callerOf_eq hnow]
  rw [trace_dispatched hmethod]

end Relabelled

/-! ### The law -/

/-- A request that no endpoint is for has a response nevertheless. -/
theorem exists_answer_of_unmatched {σ : Type} {services : Services σ} {occasion : Occasion}
    {r : Request} (h : ∀ endpoint, route r.target.path r.method ≠ .found endpoint) (s : σ) :
    ∃ a, (serve services occasion r s).ending = .done a := by
  have hdone : ∃ response, (work services occasion r s).ending = .done response := by
    rw [work]
    cases hroute : route r.target.path r.method with
    | notFound => exact ⟨_, rfl⟩
    | methodNotAllowed allowed => exact ⟨_, rfl⟩
    | found endpoint => exact absurd hroute (h endpoint)
  obtain ⟨response, hresponse⟩ := hdone
  obtain ⟨a, ha, -⟩ := serve_of_done hresponse
  exact ⟨a, ha⟩

/-- **Every response has the identifier of its request.**  Whatever is answered, also to a request
that no endpoint is for, there is exactly one header with an identifier.  It is the one that the
request gives, if it gives any, and otherwise a fresh one; either way it is safe and can be sent.
Requests that differ in nothing but the identifiers they give cannot be told apart by anything
else in their answers. -/
theorem responses_are_identified {σ : Type} (services : Services σ) (occasion : Occasion)
    (r : Request) (s : σ) :
    ((∀ endpoint, route r.target.path r.method ≠ .found endpoint) →
      ∃ a, (serve services occasion r s).ending = .done a) ∧
    (∀ a, (serve services occasion r s).ending = .done a → ∃ id,
      a.response.headers.filter (fun header => header.1 = headerName) = [(headerName, id)] ∧
      (∀ given, Gives r given → id = given) ∧
      ((∀ given, ¬Gives r given) → IsFresh occasion.idBytes id) ∧
      IsSafe id ∧ ∀ b ∈ Utf8.encode id, isHeaderValueByte b = true) ∧
    ∀ (other : Request) (o : Occasion), Relabelled r other → occasion.now = o.now →
      occasion.salt = o.salt → traced services occasion r s = traced services o other s := by
  refine ⟨fun hunmatched => exists_answer_of_unmatched hunmatched s, ?_, ?_⟩
  · intro a ha
    obtain ⟨response, -, hsent⟩ := work_of_serve ha
    have hsafe := isSafe_ofRequest r occasion.idBytes
    refine ⟨ofRequest r occasion.idBytes, ?_, ?_, ?_, hsafe, hsafe.sendable⟩
    · rw [hsent, dispatched, hsafe.headers_stamp]
    · exact fun given hgives => ofRequest_of_gives hgives
    · intro hnone
      rw [ofRequest_of_not_gives hnone]
      exact isFresh_ofRandom occasion.idBytes
  · intro other o hother hnow hsalt
    rw [hother.traced_eq hnow hsalt]

/-- A request for a place that does not exist, with these headers to identify it. -/
def stray (ids : List String) : Request where
  method := "GET"
  target := ⟨Utf8.encode "/nowhere", []⟩
  headers := ids.map fun id => (headerName, Utf8.encode id)
  body := []

/-- What strays are answered at the beginning of the first day. -/
def answerToStray (ids : List String) : Ending Empty Answer :=
  (serve (inMemory Password.argon2 "k" .epoch) daybreak (stray ids) .empty).ending

/-- Of two identifiers the first is taken without its blanks, if it is one word, and neither
otherwise; the answers differ in nothing else. -/
theorem strays_are_identified :
    (∃ a, answerToStray [" edge-7\t", "edge-8"] = .done a ∧
      a.response.headers.filter (fun header => header.1 = headerName) =
        [(headerName, "edge-7")]) ∧
    (∃ a id, answerToStray ["edge 7", "edge-8"] = .done a ∧
      a.response.headers.filter (fun header => header.1 = headerName) = [(headerName, id)] ∧
      IsFresh daybreak.idBytes id) ∧
    traced (inMemory Password.argon2 "k" .epoch) daybreak (stray [" edge-7\t", "edge-8"]) .empty =
      traced (inMemory Password.argon2 "k" .epoch) daybreak (stray ["edge 7", "edge-8"])
        .empty := by
  have hunmatched : ∀ endpoint, route (Utf8.encode "/nowhere") "GET" ≠ .found endpoint := by
    have hroute : route (Utf8.encode "/nowhere") "GET" = .notFound := by decide +kernel
    rw [hroute]
    exact fun endpoint h => nomatch h
  have hgives : Gives (stray [" edge-7\t", "edge-8"]) "edge-7" :=
    given?_eq_some_iff.mp (by decide +kernel)
  have hnothing : ∀ given, ¬Gives (stray ["edge 7", "edge-8"]) given := by
    have hnone : given? (stray ["edge 7", "edge-8"]) = none := by decide +kernel
    intro given hgiven
    cases hnone.symm.trans (given?_eq_some_iff.mpr hgiven)
  obtain ⟨hanswered, hgiven, halike⟩ := responses_are_identified
    (inMemory Password.argon2 "k" .epoch) daybreak (stray [" edge-7\t", "edge-8"]) .empty
  obtain ⟨hanswered', hfresh, -⟩ := responses_are_identified
    (inMemory Password.argon2 "k" .epoch) daybreak (stray ["edge 7", "edge-8"]) .empty
  refine ⟨?_, ?_, ?_⟩
  · obtain ⟨a, ha⟩ := hanswered hunmatched
    obtain ⟨id, hid, hsame, -⟩ := hgiven a ha
    exact ⟨a, ha, by rw [hid, hsame _ hgives]⟩
  · obtain ⟨a, ha⟩ := hanswered' hunmatched
    obtain ⟨id, hid, -, hmade, -⟩ := hfresh a ha
    exact ⟨a, id, ha, hid, hmade hnothing⟩
  · exact halike _ _ ⟨rfl, rfl, by decide +kernel, rfl⟩ rfl rfl

end OrderDesk.Api
