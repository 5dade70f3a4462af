/-
Calls to the store of orders, one after another.

Callers of the store only see answers.  A `Run` puts the calls that were made in the
order in which they took effect, each with its answer, next to the table they have led
to.  A call that is given up does not end a run: the calls after it find the table as
it was left.

Every statement about runs is proved the same way.  It holds at the start, the step
lemmas here say that one more call keeps it, and `Run.more_induction` does the rest.
-/
import OrderDesk.Proofs.Store.Table

namespace OrderDesk.Memory

/-- A call, with what it is given. -/
inductive OrderCall where
  | insert (owner : UserId) (order : NewOrder)
  | list (owner : UserId)
  | find (owner : UserId) (id : OrderId)
  | update (owner : UserId) (id : OrderId) (change : OrderUpdate)
  | delete (owner : UserId) (id : OrderId)
  deriving DecidableEq, Repr

/-- What comes back from a call that succeeds. -/
inductive Reply where
  | nothing
  | number (id : OrderId)
  | order (order : Order)
  | orders (orders : List Order)
  deriving DecidableEq, Repr

namespace OrderCall

/-- On whose behalf the call is made. -/
def owner : OrderCall → UserId
  | insert owner _ | list owner | find owner _ | update owner _ _ | delete owner _ => owner

/-- The call stores a new order. -/
def isInsert : OrderCall → Bool
  | insert _ _ => true
  | _ => false

/-- The call changes an order. -/
def isUpdate : OrderCall → Bool
  | update _ _ _ => true
  | _ => false

/-- Make the call. -/
def on {σ : Type} (store : OrderStore σ) : OrderCall → Action σ StoreError Reply
  | insert owner order => Reply.number <$> store.insert owner order
  | list owner => Reply.orders <$> store.listByOwner owner
  | find owner id => Reply.order <$> store.findOne owner id
  | update owner id change => (fun _ => Reply.nothing) <$> store.update owner id change
  | delete owner id => (fun _ => Reply.nothing) <$> store.delete owner id

theorem on_onPart {σ τ : Type} (get : τ → σ) (set : σ → τ → τ) (store : OrderStore σ)
    (call : OrderCall) : call.on (store.onPart get set) = (call.on store).onPart get set := by
  cases call <;> exact Action.map_onPart ..

end OrderCall

/-- A call that was made, and how it ended. -/
structure Event where
  call : OrderCall
  ending : Ending StoreError Reply
  deriving DecidableEq, Repr

/-- The calls that were made so far, earliest first, and what they have led to. -/
structure Run where
  events : List Event
  table : OrderTable

namespace Run

/-- Nothing has been called yet. -/
def start : Run := ⟨[], .empty⟩

/-- Make one more call. -/
def next (run : Run) (call : OrderCall) : Run :=
  let step := call.on orderStore run.table
  ⟨run.events ++ [⟨call, step.ending⟩], step.state⟩

/-- Make calls one after another. -/
def more (run : Run) (calls : List OrderCall) : Run := calls.foldl next run

/-- Make these calls, and no others. -/
def of (calls : List OrderCall) : Run := start.more calls

theorem next_events (run : Run) (call : OrderCall) :
    (run.next call).events =
      run.events ++ [⟨call, (call.on orderStore run.table).ending⟩] := rfl

theorem next_table (run : Run) (call : OrderCall) :
    (run.next call).table = (call.on orderStore run.table).state := rfl

/-- What one more call keeps, all calls keep. -/
theorem more_induction {P : Run → Prop} {calls : List OrderCall} {run : Run} (h : P run)
    (hnext : ∀ run, ∀ call ∈ calls, P run → P (run.next call)) : P (run.more calls) := by
  induction calls generalizing run with
  | nil => exact h
  | cons call rest ih =>
      refine ih (hnext run call (List.mem_cons_self ..) h) ?_
      intro run' c hc
      exact hnext run' c (List.mem_cons_of_mem _ hc)

theorem of_snoc (calls : List OrderCall) (call : OrderCall) :
    of (calls ++ [call]) = (of calls).next call := by
  rw [of, more, List.foldl_append]
  rfl

end Run

/-! ### Single calls -/

theorem on_insert (table : OrderTable) (owner : UserId) (order : NewOrder) :
    ((OrderCall.insert owner order).on orderStore table).ending =
        (OrderTable.insert owner order table).ending.map .number ∧
      ((OrderCall.insert owner order).on orderStore table).state =
        (OrderTable.insert owner order table).state := by
  simp only [OrderCall.on, Action.ending_map, Action.state_map, orderStore, bounded_immediately,
    and_self]

theorem on_update (table : OrderTable) (owner : UserId) (id : OrderId) (change : OrderUpdate) :
    ((OrderCall.update owner id change).on orderStore table).ending =
        (OrderTable.update owner id change table).ending.map (fun _ => .nothing) ∧
      ((OrderCall.update owner id change).on orderStore table).state =
        (OrderTable.update owner id change table).state := by
  simp only [OrderCall.on, Action.ending_map, Action.state_map, orderStore, bounded_immediately,
    and_self]

theorem on_delete (table : OrderTable) (owner : UserId) (id : OrderId) :
    ((OrderCall.delete owner id).on orderStore table).ending =
        (OrderTable.delete owner id table).ending.map (fun _ => .nothing) ∧
      ((OrderCall.delete owner id).on orderStore table).state =
        (OrderTable.delete owner id table).state := by
  simp only [OrderCall.on, Action.ending_map, Action.state_map, orderStore, bounded_immediately,
    and_self]

theorem on_list (table : OrderTable) (owner : UserId) :
    ((OrderCall.list owner).on orderStore table).ending = .done (.orders (table.ownedBy owner)) ∧
      ((OrderCall.list owner).on orderStore table).state = table := by
  simp only [OrderCall.on, Action.ending_map, Action.state_map, orderStore, bounded_immediately]
  exact ⟨rfl, rfl⟩

theorem on_find (table : OrderTable) (owner : UserId) (id : OrderId) :
    ((OrderCall.find owner id).on orderStore table).ending =
        (OrderTable.findOne owner id table).ending.map .order ∧
      ((OrderCall.find owner id).on orderStore table).state = table := by
  simp only [OrderCall.on, Action.ending_map, Action.state_map, orderStore, bounded_immediately,
    true_and]
  unfold OrderTable.findOne
  split <;> rfl

/-- A call keeps the table sound, and nobody but its owner sees a change. -/
theorem on_keeps (call : OrderCall) :
    Action.Keeps OrderTable.Sound (OrderTable.elsewhere call.owner) (call.on orderStore) := by
  intro table h
  cases call with
  | insert owner order =>
      rw [(on_insert table owner order).2]
      exact OrderTable.insert_keeps owner order table h
  | list owner =>
      rw [(on_list table owner).2]
      exact ⟨h, rfl⟩
  | find owner id =>
      rw [(on_find table owner id).2]
      exact ⟨h, rfl⟩
  | update owner id change =>
      rw [(on_update table owner id change).2]
      exact OrderTable.update_keeps owner id change table h
  | delete owner id =>
      rw [(on_delete table owner id).2]
      exact OrderTable.delete_keeps owner id table h

theorem Run.next_sound {run : Run} (h : run.table.Sound) (call : OrderCall) :
    (run.next call).table.Sound :=
  (on_keeps call run.table h).1

/-- However many calls others make, an owner sees no change. -/
theorem Run.find?_more {run : Run} (h : run.table.Sound) {owner : UserId}
    {calls : List OrderCall} (hcalls : ∀ call ∈ calls, call.owner ≠ owner) :
    (run.more calls).table.Sound ∧
      ∀ id, (run.more calls).table.find? owner id = run.table.find? owner id := by
  refine more_induction (P := fun r => r.table.Sound ∧
    ∀ id, r.table.find? owner id = run.table.find? owner id) ⟨h, fun _ => rfl⟩ ?_
  rintro r call hcall ⟨hr, hview⟩
  obtain ⟨hsound, helse⟩ := on_keeps call r.table hr
  refine ⟨hsound, ?_⟩
  intro id
  have hne : owner ≠ call.owner := Ne.symm (hcalls call hcall)
  have hid := congrFun (congrFun helse owner) id
  rw [OrderTable.elsewhere_of_ne hne, OrderTable.elsewhere_of_ne hne] at hid
  exact hid.trans (hview id)

end OrderDesk.Memory
