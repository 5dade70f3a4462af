/-
What a request about orders asks for.

Before anything is done about orders, a request is read: the number of an order, from the path
or from the query, and then the body.  Reading looks at nothing but the request.  What it comes
to is a `Wish`, and a wish of somebody at some time is one of the requests that the service of
orders knows, and so one call of the store.  A request that cannot be read is answered without
any call.

The handlers read and act in one go.  Here they are taken apart, so that whoever wants to know
what a handler does to the orders is left with one call, whichever handler it is.
-/
import OrderDesk.Proofs.Api.Answers
import OrderDesk.Proofs.Fallible
import OrderDesk.Proofs.Service.Orders

namespace OrderDesk.Api

open OrderDesk.Http
open OrderDesk.Memory (Reply)
open OrderDesk.Text

/-- What somebody wants to be done about orders. -/
inductive Wish where
  | create (status : OrderStatus)
  | list
  | get (id : OrderId)
  | update (id : OrderId) (status : Option OrderStatus)
  | delete (id : OrderId)
  deriving DecidableEq, Repr

/-- What the service is asked when a user wants this at the time `now`. -/
def Wish.request (now : Instant) (user : UserId) : Wish → Orders.Request
  | create status => .create now user status
  | list => .list user
  | get id => .get user id
  | update id status => .update now user id status
  | delete id => .delete user id

/-- Whatever a user wants is asked on behalf of this user. -/
theorem Wish.owner_request (now : Instant) (user : UserId) (wish : Wish) :
    (wish.request now user).call.owner = user := by
  cases wish <;> rfl

/-- Why it is not known what a request asks for. -/
inductive Unclear where
  | refused (why : ApiError)
  /-- A part of the path stands for no text. -/
  | noText
  deriving DecidableEq, Repr

/-- What is answered then. -/
def Unclear.response : Unclear → Response
  | refused why => why.response
  | noText => .plain 400 "Invalid URL: Invalid UTF-8 in `id`"

/-- How it is answered. -/
def Unclear.action {σ : Type} : Unclear → Action σ ApiError Response
  | refused why => Action.fail why
  | noText => Action.done Unclear.noText.response

/-- The number of an order in a part of the path. -/
def numberInPath (part : List UInt8) : Except Unclear OrderId :=
  match Utf8.decode? (Url.percentDecode part) with
  | some text => (readOrderNumber text).mapError .refused
  | none => .error .noText

/-- The number of an order in the query. -/
def numberInQuery (r : Request) : Except Unclear OrderId :=
  match readQuery r with
  | .error e => .error (.refused e)
  | .ok query =>
    match query.id with
    | none => .error (.refused (.validation "missing order id"))
    | some number => (readOrderNumber number).mapError .refused

/-- What a request asks for. -/
def asked (r : Request) : OrderRequest → Except Unclear Wish
  | .create => ((readBody CreateOrder.decode r).mapError .refused).map fun body =>
      .create body.status
  | .getByQuery => (numberInQuery r).map .get
  | .list => .ok .list
  | .getByPath part => (numberInPath part).map .get
  | .update part =>
    match numberInPath part with
    | .error why => .error why
    | .ok id => ((readBody UpdateOrder.decode r).mapError .refused).map fun body =>
        .update id body.status
  | .delete part => (numberInPath part).map .delete

/-- What is answered when a request was carried out. -/
def told (q : Orders.Request) : Reply → Response
  | .number id => .json 201 (encodeOrderCreated ⟨id, "Order created successfully"⟩)
  | .orders orders => .json 200 (orderListBody orders)
  | .order order => .json 200 (orderBody order)
  | .nothing =>
    match q with
    | .delete .. => .json 200 (Message.encode ⟨"Order deleted successfully"⟩)
    | _ => .json 200 (Message.encode ⟨"Order updated successfully"⟩)

/-- Carry out a request, and answer it. -/
def carryOut {σ : Type} (services : Services σ) (q : Orders.Request) :
    Action σ ApiError Response :=
  told q <$> (q.on services.orders).mapError .order

variable {σ : Type} {services : Services σ} {occasion : Occasion} {r : Request} {user : UserId}
  {s : σ}

/-! ### What cannot be read -/

/-- Only what the caller has sent is refused. -/
def Validated {α : Type} (x : Except ApiError α) : Prop :=
  ∀ e, x = .error e → ∃ text, e = .validation text

theorem readBody_validated {α : Type} (decode : List (Option Char) → Except Json.Refusal α)
    (r : Request) : Validated (readBody decode r) := by
  intro e h
  unfold readBody at h
  split at h
  · exact ⟨_, (Except.error.inj h).symm⟩
  · split at h
    · exact ⟨_, (Except.error.inj h).symm⟩
    · cases hdecode : decode (Utf8.decode r.body) with
      | error refusal =>
          rw [hdecode] at h
          exact ⟨_, (Except.error.inj h).symm⟩
      | ok a =>
          rw [hdecode] at h
          cases h

theorem readQuery_validated (r : Request) : Validated (readQuery r) := by
  intro e h
  unfold readQuery at h
  split at h
  · cases h
  · cases h
  · exact ⟨_, (Except.error.inj h).symm⟩

theorem readOrderNumber_validated (text : String) : Validated (readOrderNumber text) := by
  intro e h
  unfold readOrderNumber at h
  split at h
  · cases h
  · exact ⟨_, (Except.error.inj h).symm⟩

/-- What cannot be read is a bad request. -/
def Legible {α : Type} (x : Except Unclear α) : Prop :=
  ∀ why, x = .error why → why.response.status = 400

theorem Legible.map {α β : Type} {x : Except Unclear α} (hx : Legible x) (f : α → β) :
    Legible (x.map f) := by
  intro why h
  cases x with
  | ok a => cases h
  | error e =>
      cases h
      exact hx why rfl

theorem Validated.legible {α : Type} {x : Except ApiError α} (hx : Validated x) :
    Legible (x.mapError .refused) := by
  intro why h
  cases x with
  | ok a => cases h
  | error e =>
      cases h
      obtain ⟨text, rfl⟩ := hx e rfl
      rfl

theorem numberInPath_legible (part : List UInt8) : Legible (numberInPath part) := by
  unfold numberInPath
  split
  · exact (readOrderNumber_validated _).legible
  · intro why h
    cases h
    rfl

theorem numberInQuery_legible (r : Request) : Legible (numberInQuery r) := by
  unfold numberInQuery
  split
  · next e h =>
    intro why hwhy
    cases hwhy
    obtain ⟨text, rfl⟩ := readQuery_validated r e h
    rfl
  · split
    · intro why h
      cases h
      rfl
    · exact (readOrderNumber_validated _).legible

theorem asked_legible (r : Request) (what : OrderRequest) : Legible (asked r what) := by
  cases what with
  | create => exact (readBody_validated CreateOrder.decode r).legible.map _
  | getByQuery => exact (numberInQuery_legible r).map _
  | list =>
      intro why h
      cases h
  | getByPath part => exact (numberInPath_legible part).map _
  | update part =>
      simp only [asked]
      cases h : numberInPath part with
      | error e =>
          intro why hwhy
          cases hwhy
          exact numberInPath_legible part _ h
      | ok id => exact (readBody_validated UpdateOrder.decode r).legible.map _
  | delete part => exact (numberInPath_legible part).map _

/-! ### What can be read -/

/-- The wishes that each kind of request can come to.  Who names an order in the path means that
order. -/
inductive Asks : OrderRequest → Wish → Prop
  | create (status : OrderStatus) : Asks .create (.create status)
  | getByQuery (id : OrderId) : Asks .getByQuery (.get id)
  | list : Asks .list .list
  | getByPath {part : List UInt8} {id : OrderId} (h : numberInPath part = .ok id) :
      Asks (.getByPath part) (.get id)
  | update {part : List UInt8} {id : OrderId} (h : numberInPath part = .ok id)
      (status : Option OrderStatus) : Asks (.update part) (.update id status)
  | delete {part : List UInt8} {id : OrderId} (h : numberInPath part = .ok id) :
      Asks (.delete part) (.delete id)

theorem asks_of_asked {what : OrderRequest} {wish : Wish} (h : asked r what = .ok wish) :
    Asks what wish := by
  cases what with
  | create =>
      obtain ⟨body, -, rfl⟩ := map_eq_ok h
      exact .create body.status
  | getByQuery =>
      obtain ⟨id, -, rfl⟩ := map_eq_ok h
      exact .getByQuery id
  | list =>
      cases h
      exact .list
  | getByPath part =>
      obtain ⟨id, hid, rfl⟩ := map_eq_ok h
      exact .getByPath hid
  | update part =>
      simp only [asked] at h
      cases hid : numberInPath part with
      | error why =>
          rw [hid] at h
          cases h
      | ok id =>
          rw [hid] at h
          obtain ⟨body, -, rfl⟩ := map_eq_ok h
          exact .update hid body.status
  | delete part =>
      obtain ⟨id, hid, rfl⟩ := map_eq_ok h
      exact .delete hid

/-! ### What is asked for is done -/

/-- To carry out a request is to ask the service, and to put its answer into words. -/
theorem carryOut_eq {α : Type} (q : Orders.Request) (x : Action σ OrderError α)
    (reply : α → Reply) (hq : q.on services.orders = reply <$> x) :
    carryOut services q = x.mapError .order >>= fun a => pure (told q (reply a)) := by
  rw [carryOut, hq, Action.map_mapError_map]
  rfl

theorem withPathText_eq (part : List UInt8) (next : OrderId → Action σ ApiError Response) :
    (withPathText part fun text => Action.ofExcept (readOrderNumber text) >>= next) =
      match numberInPath part with
      | .error why => why.action
      | .ok id => next id := by
  unfold withPathText numberInPath
  cases Utf8.decode? (Url.percentDecode part) with
  | none => rfl
  | some text =>
      simp only
      cases readOrderNumber text with
      | error e => rfl
      | ok id => rfl

/-- **A handler reads what it is asked for, and does it.** -/
theorem serveOrder_eq (services : Services σ) (occasion : Occasion) (r : Request)
    (user : UserId) (what : OrderRequest) :
    serveOrder services occasion r user what =
      match asked r what with
      | .error why => why.action
      | .ok wish => carryOut services (wish.request occasion.now user) := by
  cases what with
  | create =>
      simp only [serveOrder, createOrder, asked]
      cases readBody CreateOrder.decode r with
      | error e => rfl
      | ok body => exact (carryOut_eq _ _ Reply.number rfl).symm
  | getByQuery =>
      simp only [serveOrder, getByQuery, getOrder, asked, numberInQuery]
      cases readQuery r with
      | error e => rfl
      | ok query =>
          cases hid : query.id with
          | none => simp only [Action.ofExcept, Action.done_bind, hid]; rfl
          | some number =>
              simp only [Action.ofExcept, Action.done_bind, hid]
              cases readOrderNumber number with
              | error e => rfl
              | ok id => exact (carryOut_eq _ _ Reply.order rfl).symm
  | list => exact (carryOut_eq _ _ Reply.orders rfl).symm
  | getByPath part =>
      simp only [serveOrder, getOrder, withPathText_eq, asked]
      cases numberInPath part with
      | error why => rfl
      | ok id => exact (carryOut_eq _ _ Reply.order rfl).symm
  | update part =>
      simp only [serveOrder, updateOrder, withPathText_eq, asked]
      cases numberInPath part with
      | error why => rfl
      | ok id =>
          simp only
          cases readBody UpdateOrder.decode r with
          | error e => rfl
          | ok body =>
              exact (carryOut_eq (.update occasion.now user id body.status) _
                (fun _ => Reply.nothing) rfl).symm
  | delete part =>
      simp only [serveOrder, deleteOrder, withPathText_eq, asked]
      cases numberInPath part with
      | error why => rfl
      | ok id => exact (carryOut_eq (.delete user id) _ (fun _ => Reply.nothing) rfl).symm

/-- What a caller asks for is what is done. -/
theorem work_of_asked {what : OrderRequest} {wish : Wish}
    (hroute : route r.target.path r.method = .found (.order what))
    (hcaller : identify services.accounts.signingKey occasion.now r = .ok user)
    (hasked : asked r what = .ok wish) :
    work services occasion r = carryOut services (wish.request occasion.now user) := by
  rw [work_of_caller hroute hcaller, serveOrder_eq, hasked]

/-- A caller whose request cannot be read is answered at once. -/
theorem work_of_unclear {what : OrderRequest} {why : Unclear}
    (hroute : route r.target.path r.method = .found (.order what))
    (hcaller : identify services.accounts.signingKey occasion.now r = .ok user)
    (hasked : asked r what = .error why) : work services occasion r = why.action := by
  rw [work_of_caller hroute hcaller, serveOrder_eq, hasked]

/-- The response to a request whose call has ended in this way. -/
def answerTo (q : Orders.Request) : Ending StoreError Reply → Ending Empty Response
  | .done reply => .done (told q reply)
  | .failed e => .done (ApiError.order ⟨q.operation, e⟩).response
  | .aborted => .aborted

/-- How the work on a request ends whose call has ended in this way. -/
def carried (q : Orders.Request) : Ending StoreError Reply → Ending ApiError Response
  | .done reply => .done (told q reply)
  | .failed e => .failed (.order ⟨q.operation, e⟩)
  | .aborted => .aborted

theorem outcomeOf_carried (q : Orders.Request) (x : Ending StoreError Reply) :
    outcomeOf (carried q x) = answerTo q x := by
  cases x <;> rfl

/-- **A request that is carried out is one call of the store.**  It leads where the call leads,
comes to what comes back from it, and writes down what has been done. -/
theorem carryOut_call (services : Services σ) (q : Orders.Request) (s : σ) :
    carryOut services q s =
      let call := q.call.on services.orders.store s
      ⟨carried q call.ending, call.log ++ q.written call.ending, call.state⟩ := by
  have hcall : q.on services.orders s = _ := q.on_call services.orders.store s
  rw [carryOut, Action.map_eq]
  simp only [Action.mapError_eq, hcall]
  cases (q.call.on services.orders.store s).ending <;> rfl

theorem told_success (q : Orders.Request) (reply : Reply) : Success (told q reply) := by
  cases reply with
  | number id => exact success_json (by decide) _
  | orders orders => exact success_json (by decide) _
  | order order => exact success_json (by decide) _
  | nothing => cases q <;> exact success_json (by decide) _

end OrderDesk.Api
