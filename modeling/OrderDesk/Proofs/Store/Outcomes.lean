/-
What a call does, from beginning to end.

`Outcome` lists every way in which a call of the store of orders can end, each with the table
that it leaves.  There is one case for what each call is meant to do, one for the order that
the caller does not have, whatever is asked about it, and two in which a call is given up:
when there are no more numbers, and when there is no later time to put on a change.  Only a
change that is given up leaves a table that is neither the old one nor the intended one.

Whoever wants to know what a call may do to a table goes through these cases and does not look
at the operations again.
-/
import OrderDesk.Proofs.Store.Calls

namespace OrderDesk.Memory

/-- The order that a call is about, when it names one. -/
def OrderCall.target? : OrderCall → Option OrderId
  | insert _ _ | list _ => none
  | find _ id | update _ id _ | delete _ id => some id

/-- How a call can end, and what it makes of the table. -/
inductive Outcome (table : OrderTable) :
    OrderCall → Ending StoreError Reply → OrderTable → Prop
  | inserted (owner : UserId) (new : NewOrder) (hlt : table.lastId < maxId) :
      Outcome table (.insert owner new) (.done (.number table.nextId)) (table.add owner new)
  /-- There are no numbers left. -/
  | full (owner : UserId) (new : NewOrder) (hfull : ¬table.lastId < maxId) :
      Outcome table (.insert owner new) .aborted table
  | listed (owner : UserId) :
      Outcome table (.list owner) (.done (.orders (table.ownedBy owner))) table
  | found {owner : UserId} {id : OrderId} {order : Order}
      (h : table.find? owner id = some order) :
      Outcome table (.find owner id) (.done (.order order)) table
  | changed {owner : UserId} {id : OrderId} {order : Order} (change : OrderUpdate)
      {next : Instant} (h : table.find? owner id = some order)
      (hnext : order.updatedAt.nextMicrosecond? = some next) :
      Outcome table (.update owner id change) (.done .nothing)
        (table.put id
          { order with
            status := change.status.getD order.status
            updatedAt := change.touchedAt.latest next })
  /-- There is no time after that of the last change. -/
  | halved {owner : UserId} {id : OrderId} {order : Order} (change : OrderUpdate)
      (h : table.find? owner id = some order)
      (hnext : order.updatedAt.nextMicrosecond? = none) :
      Outcome table (.update owner id change) .aborted
        (table.put id { order with status := change.status.getD order.status })
  | removed {owner : UserId} {id : OrderId} {order : Order}
      (h : table.find? owner id = some order) :
      Outcome table (.delete owner id) (.done .nothing) (table.remove id)
  /-- The caller has no such order. -/
  | missing {call : OrderCall} {id : OrderId} (hid : call.target? = some id)
      (h : table.find? call.owner id = none) :
      Outcome table call (.failed .notFound) table

/-- **Every call has one of these outcomes.** -/
theorem outcome (table : OrderTable) (call : OrderCall) :
    Outcome table call (call.on orderStore table).ending (call.on orderStore table).state := by
  cases call with
  | insert owner new =>
      rw [(on_insert table owner new).1, (on_insert table owner new).2]
      by_cases hlt : table.lastId < maxId
      · rw [OrderTable.insert_of_lt hlt]
        exact .inserted owner new hlt
      · rw [OrderTable.insert_of_not_lt hlt]
        exact .full owner new hlt
  | list owner =>
      rw [(on_list table owner).1, (on_list table owner).2]
      exact .listed owner
  | find owner id =>
      rw [(on_find table owner id).1, (on_find table owner id).2]
      cases hf : table.find? owner id with
      | none =>
          rw [OrderTable.findOne_of_none hf]
          exact .missing rfl hf
      | some order =>
          rw [OrderTable.findOne_of_some hf]
          exact .found hf
  | update owner id change =>
      rw [(on_update table owner id change).1, (on_update table owner id change).2]
      cases hf : table.find? owner id with
      | none =>
          rw [OrderTable.update_of_none hf]
          exact .missing rfl hf
      | some order =>
          cases hnext : order.updatedAt.nextMicrosecond? with
          | none =>
              rw [OrderTable.update_of_last hf hnext]
              exact .halved change hf hnext
          | some next =>
              rw [OrderTable.update_of_some hf hnext]
              exact .changed change hf hnext
  | delete owner id =>
      rw [(on_delete table owner id).1, (on_delete table owner id).2]
      cases hf : table.find? owner id with
      | none =>
          rw [OrderTable.delete_of_none hf]
          exact .missing rfl hf
      | some order =>
          rw [OrderTable.delete_of_some hf]
          exact .removed hf

end OrderDesk.Memory
