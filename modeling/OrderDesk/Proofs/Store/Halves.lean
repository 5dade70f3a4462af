/-
Changes that are given up half way.

An order is changed in two steps.  The status is written first, and then the time of the change
is worked out, which is never earlier than the microsecond after the last change.  For an order
that was last changed in the last microsecond there is no such time, so the call is given up
between the two steps.  Nobody takes the first step back: whoever calls next finds the new status
beside the old time.

A change that keeps the status, or names none, has nothing to leave behind.  So what breaks the
promise of all or nothing is said without mentioning the call: the owner has the order, its last
change lies in the last microsecond, and the change brings another status.
-/
import OrderDesk.Proofs.Store.Rows
import OrderDesk.Proofs.Time.Instant

namespace OrderDesk

/-- What a change makes of an order in the first step. -/
def OrderUpdate.half (change : OrderUpdate) (order : Order) : Order :=
  { order with status := change.status.getD order.status }

/-- What a change makes of an order, when `next` is the microsecond after the last change. -/
def OrderUpdate.whole (change : OrderUpdate) (order : Order) (next : Instant) : Order :=
  { order with
    status := change.status.getD order.status
    updatedAt := max change.touchedAt next }

theorem OrderUpdate.half_eq_self_iff (change : OrderUpdate) (order : Order) :
    change.half order = order ↔ ∀ status, change.status = some status → status = order.status := by
  unfold OrderUpdate.half
  cases change.status with
  | none => simp
  | some status => cases order; simp

namespace Memory

/-- One table is the other with this order under this number. -/
structure Puts (table : OrderTable) (id : OrderId) (order : Order) (table' : OrderTable) :
    Prop where
  row : table'.rows[id]? = some order
  others : ∀ i, i ≠ id → table'.rows[i]? = table.rows[i]?
  lastId : table'.lastId = table.lastId

theorem puts_put (table : OrderTable) (id : OrderId) (order : Order) :
    Puts table id order (table.put id order) := by
  refine ⟨?_, ?_, rfl⟩
  · rw [OrderTable.getElem?_put, if_pos rfl]
  · intro i hi
    rw [OrderTable.getElem?_put, if_neg (Ne.symm hi)]

/-- Putting an order under a number changes a table unless it is there already. -/
theorem put_eq_self_iff {table : OrderTable} {id : OrderId} {order : Order} :
    table.put id order = table ↔ table.rows[id]? = some order := by
  constructor
  · intro h
    have hrow := (puts_put table id order).row
    rwa [h] at hrow
  · intro hrow
    have hrows : (table.put id order).rows = table.rows := by
      refine Std.ExtTreeMap.ext_getElem? ?_
      intro i
      rw [OrderTable.getElem?_put]
      by_cases hi : id = i
      · rw [if_pos hi, ← hi, hrow]
      · rw [if_neg hi]
    exact congrArg (OrderTable.mk · table.lastId) hrows

/-- The owner has an order whose last change lies in the last microsecond, and the change brings
it another status. -/
def Splits (table : OrderTable) (owner : UserId) (id : OrderId) (change : OrderUpdate) : Prop :=
  ∃ order status, table.rows[id]? = some order ∧ order.owner = owner ∧
    order.updatedAt.IsLast ∧ change.status = some status ∧ status ≠ order.status

section Update

variable {table : OrderTable} {owner : UserId} {id : OrderId} {change : OrderUpdate}

theorem update_eq (table : OrderTable) (owner : UserId) (id : OrderId) (change : OrderUpdate) :
    (orderStore.update owner id change table).ending =
        (OrderTable.update owner id change table).ending ∧
      (orderStore.update owner id change table).state =
        (OrderTable.update owner id change table).state := by
  simp only [orderStore, bounded_immediately, and_self]

/-- A change of an order that the caller does not have comes to nothing. -/
theorem update_missing (h : ∀ order, table.rows[id]? = some order → order.owner ≠ owner) :
    (orderStore.update owner id change table).ending = .failed .notFound ∧
      (orderStore.update owner id change table).state = table := by
  have hnone : table.find? owner id = none := by
    cases hf : table.find? owner id with
    | none => rfl
    | some order =>
        obtain ⟨hrow, howner⟩ := OrderTable.find?_eq_some.mp hf
        exact absurd howner (h order hrow)
  rw [(update_eq ..).1, (update_eq ..).2, OrderTable.update_of_none hnone]
  exact ⟨rfl, rfl⟩

variable {order : Order} (hrow : table.rows[id]? = some order) (howner : order.owner = owner)

include hrow howner

/-- A change with a microsecond left after the last one is made as a whole. -/
theorem update_whole {next : Instant} (hnext : order.updatedAt.nextMicrosecond? = some next) :
    (orderStore.update owner id change table).ending = .done () ∧
      (orderStore.update owner id change table).state = table.put id (change.whole order next) := by
  have hf := OrderTable.find?_eq_some.mpr ⟨hrow, howner⟩
  rw [(update_eq ..).1, (update_eq ..).2, OrderTable.update_of_some hf hnext,
    Instant.latest_eq_max]
  exact ⟨rfl, rfl⟩

/-- A change in the last microsecond is given up after its first step. -/
theorem update_half (hlast : order.updatedAt.IsLast) :
    (orderStore.update owner id change table).ending = .aborted ∧
      (orderStore.update owner id change table).state = table.put id (change.half order) := by
  have hf := OrderTable.find?_eq_some.mpr ⟨hrow, howner⟩
  rw [(update_eq ..).1, (update_eq ..).2,
    OrderTable.update_of_last hf (Instant.nextMicrosecond?_eq_none_iff.mpr hlast)]
  exact ⟨rfl, rfl⟩

/-- The first step leaves nothing behind exactly when it brings no other status. -/
theorem splits_iff (hlast : order.updatedAt.IsLast) :
    Splits table owner id change ↔ table.put id (change.half order) ≠ table := by
  rw [Ne, put_eq_self_iff, hrow, Option.some.injEq, eq_comm, OrderUpdate.half_eq_self_iff]
  constructor
  · rintro ⟨order', status, hrow', -, -, hstatus, hne⟩ hall
    obtain rfl := Option.some.inj (hrow'.symm.trans hrow)
    exact hne (hall status hstatus)
  · intro h
    push Not at h
    obtain ⟨status, hstatus, hne⟩ := h
    exact ⟨order, status, hrow, howner, hlast, hstatus, hne⟩

end Update

/-- **A change is all or nothing, but for another status in the last microsecond.**  Whatever a
table holds: an order that the caller does not have is not found, and nothing is changed.  One
whose last change has a microsecond after it gets the status and the time together, and no other
row is touched.  One whose last change lies in the last microsecond gets the status alone, and the
call is given up.  So a call is done in full or leaves the table as it was, unless it brings
another status to an order of the last kind, and then it does neither. -/
theorem changes_are_whole_or_split (table : OrderTable) (owner : UserId) (id : OrderId)
    (change : OrderUpdate) :
    let step := orderStore.update owner id change table
    ((∀ order, table.rows[id]? = some order → order.owner ≠ owner) →
      step.ending = .failed .notFound ∧ step.state = table) ∧
    (∀ order, table.rows[id]? = some order → order.owner = owner →
      (¬order.updatedAt.IsLast → step.ending = .done () ∧
        ∃ next, order.updatedAt.nextMicrosecond? = some next ∧
          Puts table id (change.whole order next) step.state) ∧
      (order.updatedAt.IsLast → step.ending = .aborted ∧
        Puts table id (change.half order) step.state)) ∧
    (step.ending = .done () ∨ step.state = table ↔ ¬Splits table owner id change) := by
  intro step
  refine ⟨fun h => update_missing h, ?_, ?_⟩
  · intro order hrow howner
    refine ⟨?_, ?_⟩
    · intro hlast
      rw [← Instant.nextMicrosecond?_eq_none_iff, ← Ne, Option.ne_none_iff_exists'] at hlast
      obtain ⟨next, hnext⟩ := hlast
      obtain ⟨hending, hstate⟩ := @update_whole _ _ _ change _ hrow howner _ hnext
      exact ⟨hending, next, hnext, hstate ▸ puts_put table id _⟩
    · intro hlast
      obtain ⟨hending, hstate⟩ := @update_half _ _ _ change _ hrow howner hlast
      exact ⟨hending, hstate ▸ puts_put table id _⟩
  · by_cases hfound : ∃ order, table.rows[id]? = some order ∧ order.owner = owner
    · obtain ⟨order, hrow, howner⟩ := hfound
      by_cases hlast : order.updatedAt.IsLast
      · obtain ⟨hending, hstate⟩ := @update_half _ _ _ change _ hrow howner hlast
        rw [splits_iff hrow howner hlast, not_not, hending, hstate]
        simp
      · cases hnext : order.updatedAt.nextMicrosecond? with
        | none => exact absurd (Instant.nextMicrosecond?_eq_none_iff.mp hnext) hlast
        | some next =>
            refine ⟨fun _ => ?_, fun _ => .inl (update_whole hrow howner hnext).1⟩
            rintro ⟨order', status, hrow', -, hlast', -, -⟩
            obtain rfl := Option.some.inj (hrow'.symm.trans hrow)
            exact hlast hlast'
    · push Not at hfound
      refine ⟨fun _ => ?_, fun _ => .inr (update_missing hfound).2⟩
      rintro ⟨order, status, hrow, howner, -⟩
      exact hfound order hrow howner

/-- The last nanosecond. -/
def doomsday : Instant := ⟨8210266876799, 999999999, by decide⟩

/-- A table with one pending order, which seven has created in the last nanosecond. -/
def atDoomsday : OrderTable := OrderTable.empty.add ⟨7⟩ ⟨.pending, doomsday, doomsday⟩

/-- The order as it was created. -/
def lastOrder : Order :=
  { id := ⟨1⟩, owner := ⟨7⟩, status := .pending, createdAt := doomsday, updatedAt := doomsday }

/-- Seven pays for the order, and the call is given up.  The order that is found next is paid for
and was last changed before. -/
theorem half_paid :
    (orderStore.update ⟨7⟩ ⟨1⟩ ⟨some .paid, .epoch⟩ atDoomsday).ending = .aborted ∧
    (orderStore.update ⟨7⟩ ⟨1⟩ ⟨some .paid, .epoch⟩ atDoomsday).state ≠ atDoomsday ∧
    (orderStore.findOne ⟨7⟩ ⟨1⟩ atDoomsday).ending = .done lastOrder ∧
    (orderStore.findOne ⟨7⟩ ⟨1⟩
      (orderStore.update ⟨7⟩ ⟨1⟩ ⟨some .paid, .epoch⟩ atDoomsday).state).ending =
        .done { lastOrder with status := .paid } := by
  refine ⟨by decide, ?_, by decide, by decide⟩
  intro h
  have hrow := congrArg (fun table : OrderTable => table.rows[(⟨1⟩ : OrderId)]?) h
  revert hrow
  decide

/-- A change without a status is given up as a whole, and one that pays for the order is not. -/
theorem doomsday_splits_payment :
    (atDoomsday.rows[(⟨1⟩ : OrderId)]? = some lastOrder ∧ lastOrder.updatedAt.IsLast) ∧
    (orderStore.update ⟨7⟩ ⟨1⟩ ⟨none, .epoch⟩ atDoomsday).state = atDoomsday ∧
    Puts atDoomsday ⟨1⟩ { lastOrder with status := .paid }
      (orderStore.update ⟨7⟩ ⟨1⟩ ⟨some .paid, .epoch⟩ atDoomsday).state := by
  have hrow : atDoomsday.rows[(⟨1⟩ : OrderId)]? = some lastOrder := by decide
  have hlast : lastOrder.updatedAt.IsLast := by decide
  refine ⟨⟨hrow, hlast⟩, ?_, ?_⟩
  · obtain ⟨-, hown, hsplits⟩ := changes_are_whole_or_split atDoomsday ⟨7⟩ ⟨1⟩ ⟨none, .epoch⟩
    have hnone : ¬Splits atDoomsday ⟨7⟩ ⟨1⟩ ⟨none, .epoch⟩ := by
      rintro ⟨order, status, -, -, -, hstatus, -⟩
      cases hstatus
    obtain hdone | hsame := hsplits.mpr hnone
    · rw [((hown _ hrow rfl).2 hlast).1] at hdone
      cases hdone
    · exact hsame
  · obtain ⟨-, hown, -⟩ := changes_are_whole_or_split atDoomsday ⟨7⟩ ⟨1⟩ ⟨some .paid, .epoch⟩
    exact ((hown _ hrow rfl).2 hlast).2

end Memory

end OrderDesk
