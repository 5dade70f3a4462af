/-
Orders age forward, whatever the clock shows.

The service of orders stamps a new order with one time twice, as the time of creation and
as the time of change, and every change with the time at which it is made.  Those times
come from a clock that may stand still or go back.  Each request is one call of the
store, so what is known about the calls of a table carries over: the time of change only
ever moves forward, and so it never lies before the time of creation.
-/
import OrderDesk.Proofs.Store.Touches
import OrderDesk.Service.Orders

namespace OrderDesk.Orders

open OrderDesk.Memory

/-! ### Requests -/

/-- What can be asked of the service, with the time that its clock shows where it looks at it. -/
inductive Request where
  | create (now : Instant) (user : UserId) (status : OrderStatus)
  | list (user : UserId)
  | get (user : UserId) (id : OrderId)
  | update (now : Instant) (user : UserId) (id : OrderId) (status : Option OrderStatus)
  | delete (user : UserId) (id : OrderId)
  deriving DecidableEq, Repr

namespace Request

variable {σ : Type}

/-- Ask the service. -/
def on (service : Orders σ) : Request → Action σ OrderError Reply
  | create now user status => Reply.number <$> service.create now user status
  | list user => Reply.orders <$> service.list user
  | get user id => Reply.order <$> service.get user id
  | update now user id status => (fun _ => Reply.nothing) <$> service.update now user id status
  | delete user id => (fun _ => Reply.nothing) <$> service.delete user id

/-- The call of the store that a request comes down to. -/
def call : Request → OrderCall
  | create now user status => .insert user ⟨status, now, now⟩
  | list user => .list user
  | get user id => .find user id
  | update now user id status => .update user id ⟨status, now⟩
  | delete user id => .delete user id

end Request

/-! ### A request is a call of the store -/

/-- How a request is called in the report that it failed. -/
def Request.operation : Request → String
  | create .. => "create order"
  | list .. => "list orders"
  | get .. => "get order"
  | update .. => "update order"
  | delete .. => "delete order"

/-- What is announced when a request is answered with this.  Nothing is said about requests that
only look. -/
def Request.announcement : Request → Reply → Option LogEntry
  | create _ user status, .number id => some (createdEntry user id status)
  | update _ user id _, _ => some (updatedEntry user id)
  | delete user id, _ => some (deletedEntry user id)
  | _, _ => none

/-- What the service writes about a request whose call ends in this way. -/
def Request.written (r : Request) : Ending StoreError Reply → List LogEntry
  | .done reply => (r.announcement reply).toList
  | .failed _ | .aborted => []

/-- The request is meant to change something, and so there is something to announce. -/
def Request.changes : Request → Bool
  | create .. | update .. | delete .. => true
  | list .. | get .. => false

/-- **Every request is one call of the store.**  It leads where the call leads, ends as the call
does, with the operation named in an error, and announces what has been done. -/
theorem Request.on_call {σ : Type} (store : OrderStore σ) (r : Request) (s : σ) :
    r.on ⟨store⟩ s =
      ⟨(r.call.on store s).ending.mapError (OrderError.mk r.operation),
        (r.call.on store s).log ++ r.written (r.call.on store s).ending,
        (r.call.on store s).state⟩ := by
  cases r <;> simp only [on, call, OrderCall.on, Action.map_eq]
  case create now user status =>
      have h : Orders.create ⟨store⟩ now user status s = _ :=
        Action.reported (store.insert user ⟨status, now, now⟩) (OrderError.mk "create order")
          (createdEntry user · status) s
      rw [h]
      cases (store.insert user ⟨status, now, now⟩ s).ending <;> rfl
  case list user =>
      have hsilent : (list user).written ((store.listByOwner user s).ending.map .orders) = [] := by
        cases (store.listByOwner user s).ending <;> rfl
      rw [Orders.list, Action.mapError_eq, hsilent, List.append_nil, Ending.mapError_map]
      rfl
  case get user id =>
      have hsilent : (get user id).written ((store.findOne user id s).ending.map .order) = [] := by
        cases (store.findOne user id s).ending <;> rfl
      rw [Orders.get, Action.mapError_eq, hsilent, List.append_nil, Ending.mapError_map]
      rfl
  case update now user id status =>
      have h : Orders.update ⟨store⟩ now user id status s = _ :=
        Action.reported (store.update user id ⟨status, now⟩) (OrderError.mk "update order")
          (fun _ => updatedEntry user id) s
      rw [h]
      cases (store.update user id ⟨status, now⟩ s).ending <;> rfl
  case delete user id =>
      have h : Orders.delete ⟨store⟩ user id s = _ :=
        Action.reported (store.delete user id) (OrderError.mk "delete order")
          (fun _ => deletedEntry user id) s
      rw [h]
      cases (store.delete user id s).ending <;> rfl

/-- What has been changed is announced, and what has been looked at is not. -/
theorem Request.isSome_announcement {σ : Type} {store : OrderStore σ} {r : Request} {s : σ}
    {reply : Reply} (h : (r.call.on store s).ending = .done reply) :
    (r.announcement reply).isSome = r.changes := by
  cases r with
  | create now user status =>
      rw [call, OrderCall.on, Action.ending_map] at h
      obtain ⟨id, -, rfl⟩ := Ending.map_eq_done.mp h
      rfl
  | list user => rfl
  | get user id => rfl
  | update now user id status => rfl
  | delete user id => rfl

/-- Two actions that lead to the same state and succeed with the same values, though they may
report errors in different words and write different logs. -/
def Agree {σ ε ε' α : Type} (x : Action σ ε α) (y : Action σ ε' α) : Prop :=
  ∀ s, (x s).state = (y s).state ∧ ∀ a, (x s).ending = .done a ↔ (y s).ending = .done a

theorem Request.agree {σ : Type} (store : OrderStore σ) (r : Request) :
    Agree (r.on ⟨store⟩) (r.call.on store) := by
  intro s
  rw [r.on_call store s]
  exact ⟨rfl, fun _ => Ending.mapError_eq_done⟩

/-! ### A table in use -/

/-- One use of a table of orders, through the service or past it. -/
inductive Use where
  | service (request : Request)
  | store (call : OrderCall)
  deriving DecidableEq, Repr

/-- What a use makes of a table. -/
def Use.on (table : OrderTable) : Use → OrderTable
  | service request => (request.on ⟨orderStore⟩ table).state
  | store call => (call.on orderStore table).state

/-- The call that a use comes down to. -/
def Use.call : Use → OrderCall
  | service request => request.call
  | store call => call

/-- The table that some uses lead to. -/
def tableAfter (uses : List Use) : OrderTable := uses.foldl Use.on .empty

theorem tableAfter_eq (uses : List Use) : tableAfter uses = (Run.of (uses.map Use.call)).table := by
  induction uses using List.reverseRecOn with
  | nil => rfl
  | append_singleton uses use ih =>
      rw [List.map_append, List.map_singleton, Run.of_snoc, Run.next_table, ← ih, tableAfter,
        List.foldl_append]
      cases use with
      | service request => exact (Request.agree orderStore request _).1
      | store call => rfl

/-- The row that the service puts for a new order. -/
theorem row_created {now : Instant} {user : UserId} {status : OrderStatus} {table : OrderTable}
    {id : OrderId}
    (h : ((Request.create now user status).on ⟨orderStore⟩ table).ending = .done (.number id)) :
    ((Request.create now user status).call.on orderStore table).state.rows[id]? =
      some (NewOrder.row ⟨status, now, now⟩ id user) := by
  have hdone := (Request.agree orderStore (.create now user status) table).2 _ |>.mp h
  rw [Request.call, (on_insert _ _ _).1] at hdone
  rw [Request.call, (on_insert _ _ _).2]
  by_cases hlt : table.lastId < maxId
  · rw [OrderTable.insert_of_lt hlt] at hdone ⊢
    have hid : table.nextId = id := by
      injection hdone with hreply
      injection hreply
    rw [Action.state_done, OrderTable.getElem?_add, if_pos hid, hid]
  · rw [OrderTable.insert_of_not_lt hlt] at hdone
    cases hdone

/-- An order of the service is never older at its last change than when it was created. -/
theorem created_le_updated {before after : List Use} {now : Instant} {user : UserId}
    {status : OrderStatus} {id : OrderId}
    (h : ((Request.create now user status).on ⟨orderStore⟩ (tableAfter before)).ending =
      .done (.number id)) {order : Order}
    (horder : (tableAfter (before ++ .service (.create now user status) :: after)).rows[id]? =
      some order) :
    order.createdAt = now ∧ order.createdAt ≤ order.updatedAt := by
  have hrow := row_created h
  rw [tableAfter_eq, ← Run.next_table, ← Run.of_snoc] at hrow
  obtain ⟨-, made, -, hcontinues⟩ := continues_of hrow (after.map Use.call)
  rw [tableAfter_eq, List.map_append, List.map_cons, List.append_cons] at horder
  have hlater := hcontinues order horder
  refine ⟨hlater.createdAt_eq, ?_⟩
  rw [hlater.createdAt_eq]
  exact Instant.le_foldlM_touch hlater.touched

/--
**Times of change move forward under any clock.**  For every order in a table that any
calls have led to: a change that goes through makes its time of change later, and at
least as late as the change was made; nothing else touches that time; its number, its
owner and its time of creation stay.  However many calls follow, the time of change is
then, as long as no leap second is involved, the largest of what the first one and the
times of the changes count on to, by a microsecond with every change that follows them.
And an order that the service has created is never last changed before it was created.
-/
theorem times_move_forward :
    (∀ (calls : List OrderCall) (id : OrderId) (order : Order),
      (Run.of calls).table.rows[id]? = some order →
      (∀ call : OrderCall,
        MovesForward id order ⟨call, (call.on orderStore (Run.of calls).table).ending⟩
          (call.on orderStore (Run.of calls).table).state.rows[id]?) ∧
      ∀ later : List OrderCall, ∃ made : List Event,
        (Run.of (calls ++ later)).events = (Run.of calls).events ++ made ∧
        ∀ order', (Run.of (calls ++ later)).table.rows[id]? = some order' →
          (order'.id = order.id ∧ order'.owner = order.owner ∧
            order'.createdAt = order.createdAt ∧ order.updatedAt ≤ order'.updatedAt) ∧
          (order.updatedAt.isLeap = false → (∀ t ∈ touches id made, t.isLeap = false) →
            ((order.updatedAt.total + 1000 * ((touches id made).length : Int)) ::
                (touches id made).mapIdx fun (i : Nat) (t : Instant) =>
                  t.total + 1000 * (((touches id made).length - (i + 1) : Nat) : Int)).max? =
              some order'.updatedAt.total)) ∧
    ∀ (before after : List Use) (now : Instant) (user : UserId) (status : OrderStatus)
      (id : OrderId),
      ((Request.create now user status).on ⟨orderStore⟩ (tableAfter before)).ending =
        .done (.number id) →
      ∀ order, (tableAfter (before ++ .service (.create now user status) :: after)).rows[id]? =
          some order →
        order.createdAt = now ∧ order.createdAt ≤ order.updatedAt := by
  refine ⟨?_, ?_⟩
  · intro calls id order hrow
    refine ⟨fun call => (row_on (final_of calls).sound hrow call).movesForward, ?_⟩
    intro later
    obtain ⟨-, made, hevents, hcontinues⟩ := continues_of hrow later
    refine ⟨made, hevents, ?_⟩
    intro order' hrow'
    have h := hcontinues order' hrow'
    refine ⟨⟨h.id_eq, h.owner_eq, h.createdAt_eq, Instant.le_foldlM_touch h.touched⟩, ?_⟩
    intro hfirst htimes
    exact Instant.total_foldlM_touch hfirst htimes h.touched
  · intro before after now user status id hcreated order horder
    exact created_le_updated hcreated horder

/-- One second after the beginning of 1970. -/
def second : Instant := ⟨1, 0, by decide⟩

/-- An order that was created then. -/
def young : Order :=
  { id := ⟨1⟩, owner := ⟨7⟩, status := .pending, createdAt := second, updatedAt := second }

/-- The call that created it. -/
def birth : List OrderCall := [.insert ⟨7⟩ ⟨.pending, second, second⟩]

/-- Changes under a clock that has gone back to the beginning of 1970 and stands still. -/
def stale : List OrderCall :=
  [.update ⟨7⟩ ⟨1⟩ ⟨none, .epoch⟩, .update ⟨8⟩ ⟨1⟩ ⟨some .paid, .epoch⟩,
   .update ⟨7⟩ ⟨1⟩ ⟨some .paid, .epoch⟩]

/-- Two changes under a stale clock count on by two microseconds, in the store and through the
service. -/
theorem young_under_stale_clock :
    (Run.of birth).table.rows[(⟨1⟩ : OrderId)]? = some young ∧
    (∃ order' : Order, (Run.of (birth ++ stale)).table.rows[(⟨1⟩ : OrderId)]? = some order' ∧
      ([second.total + 2000, Instant.total .epoch + 1000, Instant.total .epoch].max? =
        some order'.updatedAt.total) ∧
      young.updatedAt ≤ order'.updatedAt) ∧
    ((Request.create second ⟨7⟩ .pending).on ⟨orderStore⟩ (tableAfter [])).ending =
      .done (.number ⟨1⟩) ∧
    ∃ order : Order, (tableAfter ([] ++ .service (.create second ⟨7⟩ .pending) ::
        [.service (.update .epoch ⟨7⟩ ⟨1⟩ (some .paid))])).rows[(⟨1⟩ : OrderId)]? = some order ∧
      order.createdAt = second ∧ order.createdAt ≤ order.updatedAt := by
  obtain ⟨hstore, hservice⟩ := times_move_forward
  have hyoung : (Run.of birth).table.rows[(⟨1⟩ : OrderId)]? = some young := by decide
  have hcreated : ((Request.create second ⟨7⟩ .pending).on ⟨orderStore⟩ (tableAfter [])).ending =
      .done (.number ⟨1⟩) := by decide
  refine ⟨hyoung, ?_, hcreated, ?_⟩
  · obtain ⟨-, hlater⟩ := hstore _ _ _ hyoung
    obtain ⟨made, hevents, hforward⟩ := hlater stale
    have hmade : (Run.of (birth ++ stale)).events =
        (Run.of birth).events ++
          [⟨.update ⟨7⟩ ⟨1⟩ ⟨none, .epoch⟩, .done .nothing⟩,
           ⟨.update ⟨8⟩ ⟨1⟩ ⟨some .paid, .epoch⟩, .failed .notFound⟩,
           ⟨.update ⟨7⟩ ⟨1⟩ ⟨some .paid, .epoch⟩, .done .nothing⟩] := by decide
    obtain rfl := List.append_cancel_left (hevents.symm.trans hmade)
    obtain ⟨order', horder'⟩ := Option.isSome_iff_exists.mp
      (show (Run.of (birth ++ stale)).table.rows[(⟨1⟩ : OrderId)]?.isSome = true by decide)
    obtain ⟨⟨-, -, -, hle⟩, hexact⟩ := hforward order' horder'
    exact ⟨order', horder', hexact (by decide) (by decide), hle⟩
  · obtain ⟨order, horder⟩ := Option.isSome_iff_exists.mp
      (show (tableAfter ([] ++ .service (.create second ⟨7⟩ .pending) ::
        [.service (.update .epoch ⟨7⟩ ⟨1⟩ (some .paid))])).rows[(⟨1⟩ : OrderId)]?.isSome = true
        by decide)
    exact ⟨order, horder, hservice _ _ _ _ _ _ hcreated order horder⟩

end OrderDesk.Orders
