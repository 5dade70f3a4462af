/-
What a request changes.

A response with a status between 200 and 299 says that something was done, and every other
response says that nothing was.  Both are true of the tables in memory.  A registration adds one
user, a new order is one more row, a change of an order changes one row and the removal of an
order removes it, and each of these rows belongs to the caller.  Everything else that can be
asked for changes nothing, and neither does a request that is turned away, wherever that happens
on its way.

`Effect` says what a success may change.  Each handler comes with one lemma that goes through
the ways in which its work can end, and these are known from the layers below: the admission of
a user, and the outcomes of a call of the store of orders.
-/
import OrderDesk.Proofs.Api.Isolation
import OrderDesk.Proofs.Service.Registration
import OrderDesk.Proofs.Store.Outcomes

namespace OrderDesk.Api

open OrderDesk.Action (Keeps)
open OrderDesk.Http
open OrderDesk.Memory (OrderCall OrderTable UserTable)

/-- Whether anything is meant to be changed. -/
def Endpoint.changes : Endpoint → Bool
  | .signUp | .order .create | .order (.update _) | .order (.delete _) => true
  | .health | .readiness | .signIn | .order .getByQuery | .order .list
  | .order (.getByPath _) => false

/-- What a success may change, when this is what was asked for by this caller and this is the
body of the response. -/
inductive Effect (caller : Except ApiError UserId) (t : Tables) :
    Endpoint → (body : String) → Tables → Prop
  | nothing {endpoint : Endpoint} (body : String) (h : endpoint.changes = false) :
      Effect caller t endpoint body t
  /-- There is one more user, at the end. -/
  | signedUp {user : User} (hfree : t.users.Free user.username user.email) :
      Effect caller t .signUp (encodeUserCreated ⟨user.id, "User created successfully"⟩)
        { t with users := ⟨t.users.users ++ [user]⟩ }
  /-- There is one more order, with the number that is told, and one more number is used up. -/
  | created {order : Order} (howner : caller = .ok order.owner)
      (hnew : t.orders.rows[order.id]? = none) :
      Effect caller t (.order .create)
        (encodeOrderCreated ⟨order.id, "Order created successfully"⟩)
        { t with orders := ⟨t.orders.rows.insert order.id order, t.orders.lastId + 1⟩ }
  /-- One order has another status and another time of change. -/
  | updated {part : List UInt8} {order : Order} (hid : numberInPath part = .ok order.id)
      (howner : caller = .ok order.owner) (hrow : t.orders.rows[order.id]? = some order)
      (status : OrderStatus) (updatedAt : Instant) :
      Effect caller t (.order (.update part))
        (Message.encode ⟨"Order updated successfully"⟩)
        { t with orders :=
            ⟨t.orders.rows.insert order.id { order with status := status, updatedAt := updatedAt },
              t.orders.lastId⟩ }
  /-- One order is gone. -/
  | deleted {part : List UInt8} {order : Order} (hid : numberInPath part = .ok order.id)
      (howner : caller = .ok order.owner) (hrow : t.orders.rows[order.id]? = some order) :
      Effect caller t (.order (.delete part))
        (Message.encode ⟨"Order deleted successfully"⟩)
        { t with orders := ⟨t.orders.rows.erase order.id, t.orders.lastId⟩ }

/-- Where nothing is meant to be changed, the body does not matter. -/
theorem Effect.of_unchanged {caller : Except ApiError UserId} {t t' : Tables}
    {endpoint : Endpoint} {body : String} (h : Effect caller t endpoint body t')
    (hchanges : endpoint.changes = false) (other : String) :
    Effect caller t endpoint other t' := by
  cases h with
  | nothing => exact .nothing other hchanges
  | signedUp => cases hchanges
  | created => cases hchanges
  | updated => cases hchanges
  | deleted => cases hchanges

/-- The response says what has happened to the tables, if there is a response. -/
def Accounted (t t' : Tables) (effect : String → Tables → Prop) (ending : Ending Empty Response) :
    Prop :=
  ∀ response, ending = .done response →
    (Success response → effect response.body t') ∧ (¬Success response → t' = t)

variable {passwords : PasswordScheme} {key : String} {occasion : Occasion} {r : Request}
  {t t' : Tables} {caller : Except ApiError UserId} {effect : String → Tables → Prop}

namespace Accounted

theorem success {response : Response} (hsuccess : Success response)
    (h : effect response.body t') : Accounted t t' effect (.done response) := by
  intro response' heq
  cases heq
  exact ⟨fun _ => h, fun hnot => absurd hsuccess hnot⟩

theorem refusal {response : Response} (h : ¬Success response) :
    Accounted t t effect (.done response) := by
  intro response' heq
  cases heq
  exact ⟨fun hsuccess => absurd hsuccess h, fun _ => rfl⟩

/-- Work that fails is accounted for if it leaves the tables alone. -/
theorem failed (e : ApiError) : Accounted t t effect (outcomeOf (.failed e)) :=
  refusal (not_success_of_error e)

theorem aborted : Accounted t t' effect .aborted := by
  intro response h
  cases h

/-- What is not meant to change anything and does not is accounted for. -/
theorem unchanged {endpoint : Endpoint} (h : endpoint.changes = false)
    (ending : Ending Empty Response) : Accounted t t (Effect caller t endpoint) ending := by
  intro response _
  exact ⟨fun _ => .nothing _ h, fun _ => rfl⟩

end Accounted

/-! ### Orders -/

section Orders

variable {what : OrderRequest} {wish : Wish}

theorem effect_add (hs : t.orders.Sound) (hlt : t.orders.lastId < Memory.maxId)
    (user : UserId) (new : NewOrder) :
    Effect (.ok user) t (.order .create)
      (encodeOrderCreated ⟨t.orders.nextId, "Order created successfully"⟩)
      { t with orders := t.orders.add user new } :=
  @Effect.created (.ok user) t (new.row t.orders.nextId user) rfl (hs.absent_nextId hlt)

/-- What a call of the store of orders makes of the tables is accounted for by what is told
about it. -/
theorem wish_accounted (hs : t.orders.Sound) (h : Asks what wish) (now : Instant)
    (user : UserId) :
    Accounted t
      { t with orders := ((wish.request now user).call.on Memory.orderStore t.orders).state }
      (Effect (.ok user) t (.order what))
      (answerTo (wish.request now user)
        ((wish.request now user).call.on Memory.orderStore t.orders).ending) := by
  have hout := Memory.outcome t.orders (wish.request now user).call
  have hmissing : ∀ q : Orders.Request, Accounted t { t with orders := t.orders }
      (Effect (.ok user) t (.order what)) (answerTo q (.failed .notFound)) :=
    fun q => Accounted.failed _
  generalize ((wish.request now user).call.on Memory.orderStore t.orders).ending = ending
    at hout ⊢
  generalize ((wish.request now user).call.on Memory.orderStore t.orders).state = table
    at hout ⊢
  cases h with
  | create status =>
      cases hout with
      | inserted _ _ hlt =>
          exact .success (told_success _ _) (effect_add hs hlt user _)
      | full => exact .aborted
      | missing hid => cases hid
  | getByQuery id =>
      cases hout with
      | found hrow => exact .unchanged rfl _
      | missing => exact .unchanged rfl _
  | list =>
      cases hout with
      | listed => exact .unchanged rfl _
      | missing => exact .unchanged rfl _
  | getByPath hid =>
      cases hout with
      | found hrow => exact .unchanged rfl _
      | missing => exact .unchanged rfl _
  | update hid status =>
      cases hout with
      | changed _ hfind hnext =>
          obtain ⟨hrow, rfl⟩ := OrderTable.find?_eq_some.mp hfind
          obtain rfl := hs.ownId _ _ hrow
          exact .success (told_success _ _) (.updated hid rfl hrow _ _)
      | halved => exact .aborted
      | missing => exact hmissing _
  | delete hid =>
      cases hout with
      | removed hfind =>
          obtain ⟨hrow, rfl⟩ := OrderTable.find?_eq_some.mp hfind
          obtain rfl := hs.ownId _ _ hrow
          exact .success (told_success _ _) (.deleted hid rfl hrow)
      | missing => exact hmissing _

/-- Whatever is asked about orders is accounted for. -/
theorem order_accounted (hs : t.orders.Sound) (now : Instant) (occasion : Occasion)
    (user : UserId) (r : Request) (what : OrderRequest) :
    let step := serveOrder (inMemory passwords key now) occasion r user what t
    Accounted t step.state (Effect (.ok user) t (.order what)) (outcomeOf step.ending) := by
  intro step
  have hstep : step = serveOrder (inMemory passwords key now) occasion r user what t := rfl
  rw [serveOrder_eq] at hstep
  cases hasked : asked r what with
  | error why =>
      rw [hasked] at hstep
      rw [hstep]
      cases why with
      | refused e => exact .failed e
      | noText => exact .refusal (by decide)
  | ok wish =>
      rw [hasked] at hstep
      have hcall := congrFun (OrderCall.on_onPart Tables.orders
        (fun o t => { t with orders := o }) Memory.orderStore
        (wish.request occasion.now user).call) t
      rw [hstep]
      simp only [carryOut_call, outcomeOf_carried]
      exact hcall ▸ wish_accounted hs (asks_of_asked hasked) occasion.now user

end Orders

/-! ### Accounts -/

/-- A registration adds one user, or is given up, or fails without having done anything. -/
theorem register_cases (hs : t.users.Sound) (passwords : PasswordScheme) (key : String)
    (now : Instant) (salt : List UInt8) (a : Accounts.Application) :
    let step := (inMemory passwords key now).accounts.register salt a t
    (∃ user : User, t.users.Free user.username user.email ∧ step.ending = .done user.id ∧
        step.state = { t with users := ⟨t.users.users ++ [user]⟩ }) ∨
      step.ending = .aborted ∨ ((∃ e, step.ending = .failed e) ∧ step.state = t) := by
  intro step
  obtain ⟨username, email, hvalid⟩ | ⟨e, hfault⟩ := Accounts.valid_or_fault a
  · obtain ⟨hending, hstate⟩ :=
      Accounts.register_of_valid hvalid (inMemory passwords key now).accounts salt t
    have hadmission := (UserTable.admission hs now
      (Accounts.accepted passwords salt a.password username email)).mapError
      Accounts.ofCreateError
    generalize hcreated : ((Memory.userStore now).create
      (Accounts.accepted passwords salt a.password username email)).mapError
      Accounts.ofCreateError t.users = created at hadmission
    replace hending : step.ending = created.ending := hcreated ▸ hending
    replace hstate : step.state = { t with users := created.state } := hcreated ▸ hstate
    rw [hending, hstate]
    generalize created.ending = ending at hadmission ⊢
    generalize created.state = table at hadmission ⊢
    cases hadmission with
    | refused => exact .inr (.inr ⟨⟨_, rfl⟩, rfl⟩)
    | added hfree => exact .inl ⟨_, hfree, rfl, rfl⟩
    | full => exact .inr (.inl rfl)
  · have hstep := Accounts.register_of_fault hfault (inMemory passwords key now).accounts salt t
    exact .inr (.inr ⟨⟨e, congrArg Step.ending hstep⟩, congrArg Step.state hstep⟩)

theorem signUp_accounted (hs : t.users.Sound) (now : Instant) (occasion : Occasion)
    (r : Request) :
    let step := signUp (inMemory passwords key now) occasion r t
    Accounted t step.state (Effect caller t .signUp) (outcomeOf step.ending) := by
  intro step
  cases hbody : readBody SignUp.decode r with
  | error e =>
      have hstep : step = Action.fail e t := by
        simp only [step, signUp, hbody, Action.ofExcept, Action.fail_bind]
      rw [hstep]
      exact .failed e
  | ok body =>
      have hstep : step = ((fun id : UserId =>
          Response.json 200 (encodeUserCreated ⟨id, "User created successfully"⟩)) <$>
          ((inMemory passwords key now).accounts.register occasion.salt
            ⟨body.username, body.email, body.password⟩).mapError ApiError.auth) t := by
        simp only [step, signUp, hbody, Action.ofExcept, Action.done_bind]
        rfl
      rw [hstep, Action.ending_map, Action.state_map, Action.ending_mapError,
        Action.state_mapError]
      obtain ⟨user, hfree, hending, hstate⟩ | hending | ⟨⟨e, hending⟩, hstate⟩ :=
        register_cases hs passwords key now occasion.salt ⟨body.username, body.email, body.password⟩
      · rw [hending, hstate]
        exact .success (success_json (by decide) _) (.signedUp hfree)
      · rw [hending]
        exact .aborted
      · rw [hending, hstate]
        exact .failed (.auth e)

/-- Nothing is stored when somebody signs in. -/
theorem state_signIn (now : Instant) (occasion : Occasion) (r : Request) (t : Tables) :
    (signIn (inMemory passwords key now) occasion r t).state = t := by
  have hfind : ∀ name, Keeps (fun _ : Tables => True) id
      ((inMemory passwords key now).accounts.users.findByUsername name) := by
    intro name t _
    exact ⟨trivial, congrArg (Tables.mk · t.orders)
      (UserTable.state_findByUsername t.users name now)⟩
  exact (signIn_of (Keeps.closed _ id) hfind r t trivial).2

/-- The store of users keeps the users as registrations leave them. -/
theorem userStore_keeps (now : Instant) :
    (Tables.userStore now).Satisfies
      (Keeps (fun t : Tables => t.users.Sound) fun _ => ()) where
  create user := fun _ ht => ⟨(UserTable.admission ht now user).sound ht, rfl⟩
  findByUsername name := by
    intro t ht
    refine ⟨?_, rfl⟩
    show ((Memory.userStore now).findByUsername name t.users).state.Sound
    rwa [UserTable.state_findByUsername]

/-- The users of tables that requests have led to are as registrations leave them. -/
theorem Reachable.users_sound (h : Reachable passwords key t) : t.users.Sound := by
  induction h with
  | start => exact UserTable.sound_empty
  | request h occasion r ih =>
      refine (serve_of (Keeps.closed (fun t : Tables => t.users.Sound) fun _ => ())
        ⟨userStore_keeps occasion.now, Keeps.done (), ?_⟩ _ ih).1
      intro user _
      exact ⟨fun _ _ h => ⟨h, rfl⟩, fun _ h => ⟨h, rfl⟩, fun _ _ h => ⟨h, rfl⟩,
        fun _ _ _ h => ⟨h, rfl⟩, fun _ _ h => ⟨h, rfl⟩⟩

/-! ### Every request -/

/-- Whatever is done for an endpoint is accounted for. -/
theorem endpoint_accounted (h : Reachable passwords key t) (occasion : Occasion) {r : Request}
    {endpoint : Endpoint} (hroute : route r.target.path r.method = .found endpoint) :
    let step := work (inMemory passwords key occasion.now) occasion r t
    Accounted t step.state (Effect (identify key occasion.now r) t endpoint)
      (outcomeOf step.ending) := by
  intro step
  have hstep : step = work (inMemory passwords key occasion.now) occasion r t := rfl
  cases endpoint with
  | health =>
      rw [work, hroute] at hstep
      rw [hstep]
      exact .unchanged rfl _
  | readiness =>
      rw [work, hroute] at hstep
      rw [hstep]
      exact .unchanged rfl _
  | signUp =>
      rw [work, hroute] at hstep
      rw [hstep]
      exact signUp_accounted h.users_sound occasion.now occasion r
  | signIn =>
      rw [work, hroute] at hstep
      simp only [hstep, state_signIn]
      exact .unchanged rfl _
  | order what =>
      have hkey : identify (inMemory passwords key occasion.now).accounts.signingKey occasion.now
          r = identify key occasion.now r := rfl
      cases hcaller : identify key occasion.now r with
      | error e =>
          rw [work_of_stranger hroute (hkey.trans hcaller)] at hstep
          rw [hstep]
          exact .failed e
      | ok user =>
          rw [work_of_caller hroute (hkey.trans hcaller)] at hstep
          rw [hstep]
          exact order_accounted h.sound occasion.now occasion user r what

/-- A request for the head of something is not meant to change anything. -/
theorem changes_of_head {path : List UInt8} {endpoint : Endpoint}
    (h : route path "HEAD" = .found endpoint) : endpoint.changes = false := by
  unfold route at h
  split at h
  · cases h
  · next place _ =>
    cases place <;> cases h <;> rfl

/-- **Only successes change anything, and only what they are about.**  A request that is not
answered with a success leaves the tables as they were.  A success has the effect of what was
asked for: one more user; one more order, with the number that is told, for the caller; another
status and time of change for one order of the caller; one order of the caller less; or nothing. -/
theorem changes_as_told {t : Tables} (h : Reachable passwords key t) (occasion : Occasion)
    (r : Request) {a : Answer} (ha : (answer passwords key occasion r t).ending = .done a) :
    (¬Success a.response → (answer passwords key occasion r t).state = t) ∧
    (Success a.response → ∃ endpoint, route r.target.path r.method = .found endpoint ∧
      Effect (identify key occasion.now r) t endpoint a.response.body
        (answer passwords key occasion r t).state) := by
  obtain ⟨response, hresponse, hsent⟩ := work_of_serve ha
  have hstate := (serve_work (inMemory passwords key occasion.now) occasion r t).2
  rw [answer, hstate, hsent, success_dispatched]
  cases hroute : route r.target.path r.method with
  | notFound =>
      rw [work, hroute] at hresponse ⊢
      cases hresponse
      exact ⟨fun _ => rfl, fun hsuccess => absurd hsuccess (not_success (show 300 ≤ 404 by decide))⟩
  | methodNotAllowed allowed =>
      rw [work, hroute] at hresponse ⊢
      cases hresponse
      exact ⟨fun _ => rfl, fun hsuccess => absurd hsuccess (not_success (show 300 ≤ 405 by decide))⟩
  | found endpoint =>
      obtain ⟨heffect, hnothing⟩ := endpoint_accounted h occasion hroute response hresponse
      refine ⟨hnothing, fun hsuccess => ⟨endpoint, rfl, ?_⟩⟩
      rw [body_dispatched]
      by_cases hhead : r.method = "HEAD"
      · rw [hhead] at hroute
        exact (heffect hsuccess).of_unchanged (changes_of_head hroute) _
      · rw [if_neg hhead]
        exact heffect hsuccess

/-- On empty tables, seven gets a new order, and cannot remove one that is not there. -/
theorem seven_creates_and_removes :
    (∃ a, (answer Password.argon2 "k" daybreak (newOrder ⟨7⟩) .empty).ending = .done a ∧
      Success a.response ∧
      ∃ endpoint, route (newOrder ⟨7⟩).target.path (newOrder ⟨7⟩).method = .found endpoint ∧
        Effect (identify "k" daybreak.now (newOrder ⟨7⟩)) .empty endpoint a.response.body
          (answer Password.argon2 "k" daybreak (newOrder ⟨7⟩) .empty).state) ∧
    ∃ a, (answer Password.argon2 "k" daybreak (sent ⟨7⟩ "DELETE" "/order/1" "") .empty).ending =
        .done a ∧
      ¬Success a.response ∧
      (answer Password.argon2 "k" daybreak (sent ⟨7⟩ "DELETE" "/order/1" "") .empty).state =
        .empty := by
  have hcreate : route (Text.Utf8.encode "/order") "POST" = .found (.order .create) := by
    decide +kernel
  have hdelete : route (Text.Utf8.encode "/order/1") "DELETE" =
      .found (.order (.delete [0x31])) := by
    decide +kernel
  refine ⟨?_, ?_⟩
  · have hdone : (work (inMemory Password.argon2 "k" .epoch) daybreak (newOrder ⟨7⟩)
        .empty).ending =
        .done (.json 201 (encodeOrderCreated ⟨⟨1⟩, "Order created successfully"⟩)) := by
      rw [newOrder, work_sent _ _ _ _ hcreate]
      decide +kernel
    obtain ⟨a, ha, hsent⟩ := serve_of_done hdone
    have hsuccess : Success a.response := by
      rw [hsent, success_dispatched]
      exact success_json (by decide) _
    exact ⟨a, ha, hsuccess, (changes_as_told .start daybreak _ ha).2 hsuccess⟩
  · have hfailed : (work (inMemory Password.argon2 "k" .epoch) daybreak
        (sent ⟨7⟩ "DELETE" "/order/1" "") .empty).ending =
        .failed (.order ⟨"delete order", .notFound⟩) := by
      rw [work_sent _ _ _ _ hdelete]
      decide +kernel
    obtain ⟨a, ha, hsent⟩ := serve_of_failed hfailed
    have hrefused : ¬Success a.response := by
      rw [hsent, success_dispatched]
      exact not_success_of_error _
    exact ⟨a, ha, hrefused, (changes_as_told .start daybreak _ ha).1 hrefused⟩

end OrderDesk.Api
