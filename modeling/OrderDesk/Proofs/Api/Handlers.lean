/-
What a request is made of.

Answering a request comes down to calls of the stores, log entries, values and errors,
put together in the ways that `Closed` knows.  So a closed property of the calls that a
request may make is a property of the whole answer, and which calls those are depends
on who is asking: the calls about orders are all made on behalf of the caller whose
token was accepted, and a request without such a token makes none of them.

The lemmas follow the layers: the services first, then the handlers, then the way from
the request to its handler.
-/
import OrderDesk.Api.Application
import OrderDesk.Proofs.Action

namespace OrderDesk

open OrderDesk.Action (Closed)

variable {σ : Type} {P : ∀ {ε α : Type}, Action σ ε α → Prop}

/-! ### The services -/

/-- What is asked of a store of users. -/
structure CredentialStore.Satisfies (P : ∀ {ε α : Type}, Action σ ε α → Prop)
    (store : CredentialStore σ) : Prop where
  create : ∀ user, P (store.create user)
  findByUsername : ∀ name, P (store.findByUsername name)

/-- What is asked of a store of orders, where it works on behalf of one user. -/
structure OrderStore.Satisfies (P : ∀ {ε α : Type}, Action σ ε α → Prop) (store : OrderStore σ)
    (user : UserId) : Prop where
  insert : ∀ order, P (store.insert user order)
  listByOwner : P (store.listByOwner user)
  findOne : ∀ id, P (store.findOne user id)
  update : ∀ id change, P (store.update user id change)
  delete : ∀ id, P (store.delete user id)

namespace Accounts

variable {service : Accounts σ}

theorem register_of (h : Closed P) (hs : service.users.Satisfies P) (salt : List UInt8)
    (a : Application) : P (service.register salt a) := by
  refine h.bind (h.ofExcept _) ?_
  intro user
  refine h.bind (h.mapError (hs.create user)) ?_
  intro id
  exact h.bind (h.note _) fun _ => h.done id

theorem lookUp_of (h : Closed P) (hs : ∀ name, P (service.users.findByUsername name))
    (username : String) : P (service.lookUp username) := by
  unfold lookUp
  split
  · exact h.done none
  · next name _ =>
    refine h.bind (h.attempt (hs name)) ?_
    intro found
    split
    · exact h.done _
    · exact h.done none
    · exact h.fail _

theorem issue_of (h : Closed P) (now : Instant) (id : UserId) : P (service.issue now id) := by
  unfold issue
  split
  · exact h.done _
  · exact h.abort

theorem login_of (h : Closed P) (hs : ∀ name, P (service.users.findByUsername name))
    (now : Instant) (username password : String) : P (service.login now username password) := by
  refine h.bind (lookUp_of h hs username) ?_
  intro found
  split
  · exact h.bind (h.note _) fun _ => h.fail _
  · split
    · refine h.bind (issue_of h now _) ?_
      intro issued
      exact h.bind (h.note _) fun _ => h.done issued
    · exact h.bind (h.note _) fun _ => h.fail _

end Accounts

namespace Orders

variable {service : Orders σ} {user : UserId}

theorem create_of (h : Closed P) (hs : service.store.Satisfies P user) (now : Instant)
    (status : OrderStatus) : P (service.create now user status) := by
  refine h.bind (h.mapError (hs.insert _)) ?_
  intro id
  exact h.bind (h.note _) fun _ => h.done id

theorem list_of (h : Closed P) (hs : service.store.Satisfies P user) : P (service.list user) :=
  h.mapError hs.listByOwner

theorem get_of (h : Closed P) (hs : service.store.Satisfies P user) (id : OrderId) :
    P (service.get user id) := h.mapError (hs.findOne id)

theorem update_of (h : Closed P) (hs : service.store.Satisfies P user) (now : Instant)
    (id : OrderId) (status : Option OrderStatus) : P (service.update now user id status) :=
  h.bind (h.mapError (hs.update id _)) fun _ => h.note _

theorem delete_of (h : Closed P) (hs : service.store.Satisfies P user) (id : OrderId) :
    P (service.delete user id) := h.bind (h.mapError (hs.delete id)) fun _ => h.note _

end Orders

namespace Api

open OrderDesk.Http

variable {services : Services σ} {occasion : Occasion} {user : UserId}

/-! ### The handlers -/

theorem signUp_of (h : Closed P) (hs : services.accounts.users.Satisfies P) (r : Request) :
    P (signUp services occasion r) := by
  refine h.bind (h.ofExcept _) ?_
  intro body
  exact h.bind (h.mapError (Accounts.register_of h hs _ _)) fun _ => h.done _

theorem signIn_of (h : Closed P) (hs : ∀ name, P (services.accounts.users.findByUsername name))
    (r : Request) : P (signIn services occasion r) := by
  refine h.bind (h.ofExcept _) ?_
  intro body
  refine h.bind (h.ofExcept _) ?_
  intro _
  exact h.bind (h.mapError (Accounts.login_of h hs _ _ _)) fun _ => h.done _

theorem readiness_of (h : Closed P) (hs : P services.ready) : P (readiness services) := by
  refine h.bind (h.attempt hs) ?_
  intro reached
  split
  · exact h.done _
  · exact h.bind (h.note _) fun _ => h.done _

theorem createOrder_of (h : Closed P) (hs : services.orders.store.Satisfies P user)
    (r : Request) : P (createOrder services occasion user r) := by
  refine h.bind (h.ofExcept _) ?_
  intro body
  exact h.bind (h.mapError (Orders.create_of h hs _ _)) fun _ => h.done _

theorem listOrders_of (h : Closed P) (hs : services.orders.store.Satisfies P user) :
    P (listOrders services user) :=
  h.bind (h.mapError (Orders.list_of h hs)) fun _ => h.done _

theorem getOrder_of (h : Closed P) (hs : services.orders.store.Satisfies P user)
    (number : String) : P (getOrder services user number) := by
  refine h.bind (h.ofExcept _) ?_
  intro id
  exact h.bind (h.mapError (Orders.get_of h hs id)) fun _ => h.done _

theorem getByQuery_of (h : Closed P) (hs : services.orders.store.Satisfies P user)
    (r : Request) : P (getByQuery services user r) := by
  refine h.bind (h.ofExcept _) ?_
  intro query
  split
  · exact h.fail _
  · exact getOrder_of h hs _

theorem updateOrder_of (h : Closed P) (hs : services.orders.store.Satisfies P user)
    (number : String) (r : Request) : P (updateOrder services occasion user number r) := by
  refine h.bind (h.ofExcept _) ?_
  intro id
  refine h.bind (h.ofExcept _) ?_
  intro body
  exact h.bind (h.mapError (Orders.update_of h hs _ id _)) fun _ => h.done _

theorem deleteOrder_of (h : Closed P) (hs : services.orders.store.Satisfies P user)
    (number : String) : P (deleteOrder services user number) := by
  refine h.bind (h.ofExcept _) ?_
  intro id
  exact h.bind (h.mapError (Orders.delete_of h hs id)) fun _ => h.done _

theorem withPathText_of (h : Closed P) (part : List UInt8)
    {next : String → Action σ ApiError Response} (hnext : ∀ text, P (next text)) :
    P (withPathText part next) := by
  unfold withPathText
  split
  · exact hnext _
  · exact h.done _

theorem serveOrder_of (h : Closed P) (hs : services.orders.store.Satisfies P user)
    (r : Request) (what : OrderRequest) : P (serveOrder services occasion r user what) := by
  cases what with
  | create => exact createOrder_of h hs r
  | getByQuery => exact getByQuery_of h hs r
  | list => exact listOrders_of h hs
  | getByPath part => exact withPathText_of h part fun number => getOrder_of h hs number
  | update part => exact withPathText_of h part fun number => updateOrder_of h hs number r
  | delete part => exact withPathText_of h part fun number => deleteOrder_of h hs number

/-! ### From the request to its handler -/

theorem conclude_of (h : Closed P) (requestId : String) (caller : Option UserId)
    {x : Action σ ApiError Response} (hx : P x) : P (conclude requestId caller x) := by
  refine h.bind (h.attempt hx) ?_
  intro outcome
  split
  · exact h.done _
  · exact h.bind (h.note _) fun _ => h.done _

/-- What a request may do, and on whose behalf. -/
structure Services.Satisfies (P : ∀ {ε α : Type}, Action σ ε α → Prop) (services : Services σ)
    (caller : Except ApiError UserId) : Prop where
  users : services.accounts.users.Satisfies P
  ready : P services.ready
  /-- Orders are only touched for a caller who is known. -/
  orders : ∀ user, caller = .ok user → services.orders.store.Satisfies P user

theorem serveEndpoint_of (h : Closed P) {r : Request}
    (hs : services.Satisfies P (identify services.accounts.signingKey occasion.now r))
    (requestId : String) (endpoint : Endpoint) :
    P (serveEndpoint services occasion requestId r endpoint) := by
  cases endpoint with
  | health => exact h.done _
  | readiness => exact conclude_of h requestId none (readiness_of h hs.ready)
  | signUp => exact conclude_of h requestId none (signUp_of h hs.users r)
  | signIn => exact conclude_of h requestId none (signIn_of h hs.users.findByUsername r)
  | order what =>
      simp only [serveEndpoint]
      split
      · exact conclude_of h requestId none (h.fail _)
      · next user hcaller =>
        exact conclude_of h requestId (some user)
          (serveOrder_of h (hs.orders user hcaller) r what)

theorem serveRoute_of (h : Closed P) {r : Request}
    (hs : services.Satisfies P (identify services.accounts.signingKey occasion.now r))
    (requestId : String) : P (serveRoute services occasion requestId r) := by
  unfold serveRoute
  split
  · exact h.done _
  · exact h.done _
  · exact serveEndpoint_of h hs requestId _

/-- **What the calls of the stores have in common, the whole answer has.** -/
theorem serve_of (h : Closed P) {r : Request}
    (hs : services.Satisfies P (identify services.accounts.signingKey occasion.now r)) :
    P (serve services occasion r) :=
  h.bind (serveRoute_of h hs _) fun _ => h.done _

end Api

end OrderDesk
