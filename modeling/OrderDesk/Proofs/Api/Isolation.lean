/-
Nobody learns or touches the orders of others.

The application is looked at twice, from two states that a caller has no means to tell
apart: the same users, the same last number, and the same orders of the caller.  The
orders of everybody else may be anything, except that they are what some requests have
led to.  Whatever the caller asks for, the answers are the same and the caller can
still not tell the two states apart.

The other direction is about one state: a request by anybody else leaves the orders of
an owner as they are.  This half depends on how the state came about, because a new
order takes the next number, and only the count tells that the number is free.
-/
import OrderDesk.Api.InMemory
import OrderDesk.Proofs.Api.Gate
import OrderDesk.Proofs.Api.Handlers
import OrderDesk.Proofs.Store.Table

namespace OrderDesk.Api

open OrderDesk.Action (Keeps Respects)
open OrderDesk.Http
open OrderDesk.Memory (OrderTable)

/-- Answer a request on tables in memory. -/
def answer (passwords : PasswordScheme) (key : String) (occasion : Occasion) (r : Request) :
    Action Tables Empty Answer :=
  serve (inMemory passwords key occasion.now) occasion r

/-- What requests lead to, when nobody has registered at first and there are no orders. -/
inductive Reachable (passwords : PasswordScheme) (key : String) : Tables → Prop where
  | start : Reachable passwords key .empty
  | request {t : Tables} (h : Reachable passwords key t) (occasion : Occasion) (r : Request) :
      Reachable passwords key (answer passwords key occasion r t).state

/-- Two tables that differ in nothing but the orders of others. -/
structure SameFor (owner : UserId) (s t : Tables) : Prop where
  users : s.users = t.users
  lastId : s.orders.lastId = t.orders.lastId
  rows : s.orders.ownRows owner = t.orders.ownRows owner

/-- Two states of the application that differ in nothing but the orders of others. -/
structure Related (passwords : PasswordScheme) (key : String) (owner : UserId) (s t : Tables) :
    Prop where
  left : Reachable passwords key s
  right : Reachable passwords key t
  same : SameFor owner s t

variable {passwords : PasswordScheme} {key : String} {owner : UserId} {occasion : Occasion}
  {r : Request}

theorem sameFor_iff {s t : Tables} :
    SameFor owner s t ↔ s.users = t.users ∧ OrderTable.Alike owner s.orders t.orders := by
  constructor
  · rintro ⟨husers, hlast, hrows⟩
    refine ⟨husers, hlast, ?_⟩
    intro id
    rw [← OrderTable.getElem?_ownRows, ← OrderTable.getElem?_ownRows, hrows]
  · rintro ⟨husers, hlast, hview⟩
    refine ⟨husers, hlast, ?_⟩
    refine Std.ExtTreeMap.ext_getElem? ?_
    intro id
    rw [OrderTable.getElem?_ownRows, OrderTable.getElem?_ownRows, hview]

/-! ### Two runs -/

theorem respects_users {ε α : Type} (x : Action Memory.UserTable ε α) :
    Respects (SameFor owner) (x.onPart Tables.users fun u t => { t with users := u }) := by
  refine Respects.onPart (Q := Eq) (fun _ _ h => h.users) ?_ ?_
  · intro s t u v h huv
    exact ⟨huv, h.lastId, h.rows⟩
  · intro u v huv
    subst huv
    exact ⟨rfl, rfl, rfl⟩

theorem respects_orders {ε α : Type} {x : Action OrderTable ε α}
    (hx : Respects (OrderTable.Alike owner) x) :
    Respects (SameFor owner) (x.onPart Tables.orders fun o t => { t with orders := o }) := by
  refine Respects.onPart (fun _ _ h => (sameFor_iff.mp h).2) ?_ hx
  intro s t p q h hpq
  exact sameFor_iff.mpr ⟨h.users, hpq⟩

/-- On behalf of the owner, the store of orders looks at nothing of the others. -/
theorem orderStore_respects (owner : UserId) :
    Tables.orderStore.Satisfies (Respects (SameFor owner)) owner where
  insert order := respects_orders (.bounded _ _ (OrderTable.insert_respects owner order))
  listByOwner := respects_orders (.bounded _ _ (OrderTable.listByOwner_respects owner))
  findOne id := respects_orders (.bounded _ _ (OrderTable.findOne_respects owner id))
  update id change := respects_orders (.bounded _ _ (OrderTable.update_respects owner id change))
  delete id := respects_orders (.bounded _ _ (OrderTable.delete_respects owner id))

theorem answer_respects (passwords : PasswordScheme)
    (howner : identify key occasion.now r = .ok owner) :
    Respects (SameFor owner) (answer passwords key occasion r) := by
  refine serve_of (Respects.closed (SameFor owner)) ⟨⟨?_, ?_⟩, Respects.done (), ?_⟩
  · intro user
    exact respects_users _
  · intro name
    exact respects_users _
  · intro user huser
    have hsame : user = owner := Except.ok.inj (huser.symm.trans howner)
    rw [hsame]
    exact orderStore_respects owner

/-! ### One run -/

/-- The orders of everybody but this caller. -/
def Tables.elsewhere (caller : Option UserId) (t : Tables) (o : UserId) (id : OrderId) :
    Option Order :=
  if caller = some o then none else t.orders.find? o id

/-- The rows of orders are as the operations of the store leave them. -/
def Tables.Sound (t : Tables) : Prop := t.orders.Sound

theorem keeps_users {ε α : Type} (caller : Option UserId) (x : Action Memory.UserTable ε α) :
    Keeps Tables.Sound (Tables.elsewhere caller)
      (x.onPart Tables.users fun u t => { t with users := u }) :=
  fun _ h => ⟨h, rfl⟩

theorem keeps_orders {ε α : Type} {user : UserId} {x : Action OrderTable ε α}
    (hx : Keeps OrderTable.Sound (OrderTable.elsewhere user) x) :
    Keeps Tables.Sound (Tables.elsewhere (some user))
      (x.onPart Tables.orders fun o t => { t with orders := o }) := by
  refine Keeps.onPart (fun _ h => h) ?_ hx
  intro t p _ hp hview
  refine ⟨hp, ?_⟩
  funext o id
  unfold Tables.elsewhere
  split
  · rfl
  · next ho =>
    have hne : o ≠ user := fun h => ho (congrArg some h.symm)
    have hid := congrFun (congrFun hview o) id
    rwa [OrderTable.elsewhere_of_ne hne, OrderTable.elsewhere_of_ne hne] at hid

/-- On behalf of a user, the store of orders changes nothing of the others. -/
theorem orderStore_keeps (user : UserId) :
    Tables.orderStore.Satisfies (Keeps Tables.Sound (Tables.elsewhere (some user))) user where
  insert order := keeps_orders (.bounded _ _ (OrderTable.insert_keeps user order))
  listByOwner := keeps_orders (.bounded _ _ (OrderTable.listByOwner_keeps user))
  findOne id := keeps_orders (.bounded _ _ (OrderTable.findOne_keeps user id))
  update id change := keeps_orders (.bounded _ _ (OrderTable.update_keeps user id change))
  delete id := keeps_orders (.bounded _ _ (OrderTable.delete_keeps user id))

/-- Nobody but the caller sees a change of orders. -/
theorem answer_keeps (passwords : PasswordScheme) (key : String) (occasion : Occasion)
    (r : Request) :
    Keeps Tables.Sound (Tables.elsewhere (identify key occasion.now r).toOption)
      (answer passwords key occasion r) := by
  refine serve_of (Keeps.closed _ _) ⟨⟨?_, ?_⟩, Keeps.done (), ?_⟩
  · intro user
    exact keeps_users _ _
  · intro name
    exact keeps_users _ _
  · intro user huser
    have hcaller : (identify key occasion.now r).toOption = some user := by
      rw [show identify key occasion.now r = .ok user from huser]
      rfl
    rw [hcaller]
    exact orderStore_keeps user

theorem Reachable.sound {t : Tables} (h : Reachable passwords key t) : t.Sound := by
  induction h with
  | start => exact OrderTable.sound_empty
  | request h occasion r ih => exact (answer_keeps passwords key occasion r _ ih).1

/-! ### One occasion and another

The identifier of a request may be made from random bytes, but what is shown of an answer about
orders depends on nothing of the occasion but the time.
-/

/-- What is done about orders depends on the time alone. -/
theorem serveOrder_congr {σ : Type} {services : Services σ} {o₁ o₂ : Occasion}
    (hnow : o₁.now = o₂.now) (r : Request) (user : UserId) (what : OrderRequest) :
    serveOrder services o₁ r user what = serveOrder services o₂ r user what := by
  cases what <;> simp only [serveOrder, createOrder, updateOrder, hnow]

/-- A request about orders is answered in one way, whatever random bytes it is given. -/
theorem shown_of_now {σ : Type} (services : Services σ) {o₁ o₂ : Occasion}
    (hnow : o₁.now = o₂.now) {what : OrderRequest}
    (hroute : route r.target.path r.method = .found (.order what)) (s : σ) :
    (serve services o₁ r s).ending.map Answer.shown =
        (serve services o₂ r s).ending.map Answer.shown ∧
      (serve services o₁ r s).state = (serve services o₂ r s).state := by
  have hwork : work services o₁ r = work services o₂ r := by
    cases hcaller : identify services.accounts.signingKey o₁.now r with
    | error e => rw [work_of_stranger hroute hcaller, work_of_stranger hroute (hnow ▸ hcaller)]
    | ok user =>
        rw [work_of_caller hroute hcaller, work_of_caller hroute (hnow ▸ hcaller)]
        exact serveOrder_congr hnow r user what
  rw [shown_serve, shown_serve, (serve_work services o₁ r s).2, (serve_work services o₂ r s).2,
    hwork]
  exact ⟨rfl, rfl⟩

/-! ### The law -/

/-- Two related states stay related, and the caller is shown the same. -/
theorem Related.answer {s t : Tables} (h : Related passwords key owner s t) {o₁ o₂ : Occasion}
    (hnow : o₁.now = o₂.now) {what : OrderRequest}
    (hroute : route r.target.path r.method = .found (.order what))
    (howner : identify key o₁.now r = .ok owner) :
    (answer passwords key o₁ r s).ending.map Answer.shown =
        (answer passwords key o₂ r t).ending.map Answer.shown ∧
      Related passwords key owner (answer passwords key o₁ r s).state
        (answer passwords key o₂ r t).state := by
  obtain ⟨hend, _, hsame⟩ := answer_respects passwords howner s t h.same
  have ht : Api.answer passwords key o₁ r t = serve (inMemory passwords key o₂.now) o₁ r t := by
    rw [Api.answer, hnow]
  obtain ⟨hshown, hstate⟩ := shown_of_now (inMemory passwords key o₂.now) hnow hroute t
  rw [ht] at hend hsame
  rw [hstate] at hsame
  refine ⟨?_, h.left.request o₁ r, h.right.request o₂ r, hsame⟩
  rw [hend]
  exact hshown

/-- Without an order of somebody else, nothing is different for the owner. -/
theorem sameFor_remove {s : Tables} {id : OrderId} {order : Order}
    (hrow : s.orders.rows[id]? = some order) (hforeign : order.owner ≠ owner) :
    SameFor owner s { s with orders := s.orders.remove id } := by
  refine sameFor_iff.mpr ⟨rfl, rfl, ?_⟩
  intro i
  rw [OrderTable.find?_remove]
  split
  · next hi =>
    have hfind : s.orders.find? order.owner i = some order :=
      OrderTable.find?_eq_some.mpr ⟨hi ▸ hrow, rfl⟩
    exact OrderTable.find?_eq_none_of_find? hfind hforeign
  · rfl

/-- A request by anybody else leaves the orders of the owner as they are. -/
theorem Reachable.ownRows_answer {s : Tables} (h : Reachable passwords key s)
    (hother : identify key occasion.now r ≠ .ok owner) :
    (answer passwords key occasion r s).state.orders.ownRows owner =
      s.orders.ownRows owner := by
  have hcaller : (identify key occasion.now r).toOption ≠ some owner := by
    intro hc
    cases hid : identify key occasion.now r with
    | error e =>
        rw [hid] at hc
        cases hc
    | ok user =>
        rw [hid] at hc hother
        cases hc
        exact hother rfl
  obtain ⟨_, hview⟩ := answer_keeps passwords key occasion r s h.sound
  refine Std.ExtTreeMap.ext_getElem? ?_
  intro id
  have hid := congrFun (congrFun hview owner) id
  simp only [Tables.elsewhere, if_neg hcaller] at hid
  rw [OrderTable.getElem?_ownRows, OrderTable.getElem?_ownRows, hid]

/-- **Tenants are isolated.**  What a caller is shown, and what becomes of the caller's orders,
does not depend on the orders of anybody else; an order of somebody else is answered like one
that is not there; and no request of anybody else touches the caller's orders. -/
theorem tenants_isolated (passwords : PasswordScheme) (key : String) (owner : UserId) :
    (∀ s t, Related passwords key owner s t →
      ∀ (o₁ o₂ : Occasion) (r : Request) (what : OrderRequest), o₁.now = o₂.now →
      route r.target.path r.method = .found (.order what) →
      identify key o₁.now r = .ok owner →
      (answer passwords key o₁ r s).ending.map Answer.shown =
          (answer passwords key o₂ r t).ending.map Answer.shown ∧
        Related passwords key owner (answer passwords key o₁ r s).state
          (answer passwords key o₂ r t).state) ∧
    (∀ (s : Tables) (id : OrderId) (order : Order), s.orders.rows[id]? = some order →
      order.owner ≠ owner →
      ∀ (occasion : Occasion) (r : Request), identify key occasion.now r = .ok owner →
      (answer passwords key occasion r s).ending =
        (answer passwords key occasion r { s with orders := s.orders.remove id }).ending) ∧
    (∀ s, Reachable passwords key s →
      ∀ (occasion : Occasion) (r : Request), identify key occasion.now r ≠ .ok owner →
      (answer passwords key occasion r s).state.orders.ownRows owner =
        s.orders.ownRows owner) := by
  refine ⟨?_, ?_, ?_⟩
  · intro s t h o₁ o₂ r what hnow hroute howner
    exact h.answer hnow hroute howner
  · intro s id order hrow hforeign occasion r howner
    exact (answer_respects passwords howner _ _ (sameFor_remove hrow hforeign)).1
  · intro s hs occasion r hother
    exact hs.ownRows_answer hother

/-- The tables after a request about orders by a user. -/
def acted (user : UserId) (what : OrderRequest) (r : Request) (t : Tables) : Tables :=
  (serveOrder (inMemory Password.argon2 "k" .epoch) daybreak r user what t).state

theorem Reachable.acted {t : Tables} (h : Reachable Password.argon2 "k" t) (user : UserId)
    (method path body : String) {what : OrderRequest}
    (hroute : route (Text.Utf8.encode path) method = .found (.order what)) :
    Reachable Password.argon2 "k" (acted user what (sent user method path body) t) := by
  have hstate : (answer Password.argon2 "k" daybreak (sent user method path body) t).state =
      Api.acted user what (sent user method path body) t := by
    rw [answer, show daybreak.now = .epoch from rfl, (serve_work _ _ _ t).2,
      work_sent user method path body hroute, Api.acted]
  rw [← hstate]
  exact h.request daybreak _

/-- A request for a new order. -/
def newOrder (user : UserId) : Request := sent user "POST" "/order" "\x7b\x7d"

/-- Eight has the first order, and seven the second. -/
def withForeign : Tables :=
  acted ⟨7⟩ .create (newOrder ⟨7⟩) (acted ⟨8⟩ .create (newOrder ⟨8⟩) .empty)

/-- Eight has removed the first order, and seven has the second. -/
def withoutForeign : Tables :=
  acted ⟨7⟩ .create (newOrder ⟨7⟩)
    (acted ⟨8⟩ (.delete [0x31]) (sent ⟨8⟩ "DELETE" "/order/1" "")
      (acted ⟨8⟩ .create (newOrder ⟨8⟩) .empty))

theorem related_foreign : Related Password.argon2 "k" ⟨7⟩ withForeign withoutForeign := by
  have hcreate : route (Text.Utf8.encode "/order") "POST" = .found (.order .create) := by
    decide +kernel
  have hdelete : route (Text.Utf8.encode "/order/1") "DELETE" =
      .found (.order (.delete [0x31])) := by
    decide +kernel
  have hfirst := Reachable.start.acted ⟨8⟩ "POST" "/order" "\x7b\x7d" hcreate
  have hremoved := hfirst.acted ⟨8⟩ "DELETE" "/order/1" "" hdelete
  have husers : withForeign.users = withoutForeign.users := by decide +kernel
  have hlast : withForeign.orders.lastId = withoutForeign.orders.lastId := by decide +kernel
  have hrows : withForeign.orders.ownRows ⟨7⟩ = withoutForeign.orders.ownRows ⟨7⟩ := by
    decide +kernel
  exact ⟨hfirst.acted ⟨7⟩ "POST" "/order" _ hcreate, hremoved.acted ⟨7⟩ "POST" "/order" _ hcreate,
    husers, hlast, hrows⟩

/-- The order of eight. -/
def orderOfEight : Order :=
  { id := ⟨1⟩, owner := ⟨8⟩, status := .pending, createdAt := .epoch, updatedAt := .epoch }

/-- Seven asks for the order of eight, and eight asks for one more order. -/
theorem seven_is_isolated :
    ((answer Password.argon2 "k" daybreak (sent ⟨7⟩ "GET" "/order/1" "") withForeign).ending.map
          Answer.shown =
        (answer Password.argon2 "k" daybreak (sent ⟨7⟩ "GET" "/order/1" "")
          withoutForeign).ending.map Answer.shown ∧
      Related Password.argon2 "k" ⟨7⟩
        (answer Password.argon2 "k" daybreak (sent ⟨7⟩ "GET" "/order/1" "") withForeign).state
        (answer Password.argon2 "k" daybreak (sent ⟨7⟩ "GET" "/order/1" "")
          withoutForeign).state) ∧
    (answer Password.argon2 "k" daybreak (sent ⟨7⟩ "GET" "/order/1" "") withForeign).ending =
      (answer Password.argon2 "k" daybreak (sent ⟨7⟩ "GET" "/order/1" "")
        { withForeign with orders := withForeign.orders.remove ⟨1⟩ }).ending ∧
    (answer Password.argon2 "k" daybreak (newOrder ⟨8⟩) withForeign).state.orders.ownRows ⟨7⟩ =
      withForeign.orders.ownRows ⟨7⟩ := by
  have hroute : route (Text.Utf8.encode "/order/1") "GET" =
      .found (.order (.getByPath [0x31])) := by
    decide +kernel
  have hrow : withForeign.orders.rows[(⟨1⟩ : OrderId)]? = some orderOfEight := by decide +kernel
  have height : identify "k" daybreak.now (newOrder ⟨8⟩) ≠ .ok ⟨7⟩ := by
    rw [newOrder, identify_sent]
    intro h
    injection h with huser
    revert huser
    decide
  obtain ⟨hrelated, hforeign, hothers⟩ := tenants_isolated Password.argon2 "k" ⟨7⟩
  refine ⟨?_, ?_, ?_⟩
  · exact hrelated _ _ related_foreign daybreak daybreak _ _ rfl hroute (identify_sent ⟨7⟩ _ _ _)
  · exact hforeign _ ⟨1⟩ orderOfEight hrow (by decide) daybreak _ (identify_sent ⟨7⟩ _ _ _)
  · exact hothers _ related_foreign.left daybreak _ height

end OrderDesk.Api
