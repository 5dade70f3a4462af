/-
What a call does to a row.

A statement about the life of one order has to look at every call of a run, also at those
that are about other orders, that fail, or that are given up half way.  `RowFate` lists once
what may become of a row in one call, together with how the call ended, and `row_on` says
that nothing else happens.  What has no row stays without one unless the call gives out
its number.
-/
import OrderDesk.Proofs.Store.Calls

namespace OrderDesk.Memory

namespace OrderTable

theorem getElem?_put (table : OrderTable) (id i : OrderId) (order : Order) :
    (table.put id order).rows[i]? = if id = i then some order else table.rows[i]? := by
  simp [put, Std.ExtTreeMap.getElem?_insert]

theorem getElem?_remove (table : OrderTable) (id i : OrderId) :
    (table.remove id).rows[i]? = if id = i then none else table.rows[i]? := by
  simp [remove, Std.ExtTreeMap.getElem?_erase]

theorem getElem?_add (table : OrderTable) (owner : UserId) (order : NewOrder) (i : OrderId) :
    (table.add owner order).rows[i]? =
      if table.nextId = i then some (order.row table.nextId owner) else table.rows[i]? :=
  getElem?_put table table.nextId i (order.row table.nextId owner)

/-- An order that takes the place of another does so as if nothing had been there. -/
theorem put_remove (table : OrderTable) (id : OrderId) (order : Order) :
    (table.remove id).put id order = table.put id order := by
  have hrows : ((table.remove id).put id order).rows = (table.put id order).rows := by
    refine Std.ExtTreeMap.ext_getElem? ?_
    intro i
    rw [getElem?_put, getElem?_put, getElem?_remove]
    split <;> rfl
  exact congrArg (OrderTable.mk · table.lastId) hrows

/-! ### All orders -/

/-- All orders, whoever owns them, in the order of their numbers. -/
def all (table : OrderTable) : List Order := table.rows.toList.map Prod.snd

theorem mem_all {table : OrderTable} {order : Order} :
    order ∈ table.all ↔ ∃ id : OrderId, table.rows[id]? = some order := by
  simp [all]

theorem ownedBy_eq_filter (table : OrderTable) (owner : UserId) :
    table.ownedBy owner = table.all.filter fun order => order.owner == owner := rfl

/-- No two orders have one number. -/
theorem Sound.nodup_all {table : OrderTable} (h : Sound table) :
    (table.all.map Order.id).Nodup := by
  rw [List.Nodup, all, List.pairwise_map, List.pairwise_map]
  refine Std.ExtTreeMap.distinct_keys_toList.imp_of_mem ?_
  intro a b ha hb hne heq
  rw [h.ownId _ _ (Std.ExtTreeMap.mem_toList_iff_getElem?_eq_some.mp ha),
    h.ownId _ _ (Std.ExtTreeMap.mem_toList_iff_getElem?_eq_some.mp hb)] at heq
  exact hne (Std.compare_eq_iff_eq.mpr heq)

/-! ### Calls about something else -/

section Elsewhere

variable {table : OrderTable} {id : OrderId}

/-- A new order takes the place of none whose number was given out. -/
theorem getElem?_insert_of_le (hid : id.value.toInt ≤ table.lastId) (owner : UserId)
    (order : NewOrder) : (insert owner order table).state.rows[id]? = table.rows[id]? := by
  by_cases hlt : table.lastId < maxId
  · have hne : table.nextId ≠ id := by
      intro h
      rw [← h, toInt_nextId hlt] at hid
      omega
    rw [insert_of_lt hlt, Action.state_done, getElem?_add, if_neg hne]
  · rw [insert_of_not_lt hlt, Action.state_abort]

theorem getElem?_update_of_ne {i : OrderId} (hne : i ≠ id) (owner : UserId)
    (change : OrderUpdate) :
    (update owner i change table).state.rows[id]? = table.rows[id]? := by
  cases hf : table.find? owner i with
  | none => rw [update_of_none hf, Action.state_fail]
  | some row =>
      cases hnext : row.updatedAt.nextMicrosecond? with
      | none => rw [update_of_last hf hnext, Action.state_abort, getElem?_put, if_neg hne]
      | some next => rw [update_of_some hf hnext, Action.state_done, getElem?_put, if_neg hne]

theorem getElem?_delete_of_ne {i : OrderId} (hne : i ≠ id) (owner : UserId) :
    (delete owner i table).state.rows[id]? = table.rows[id]? := by
  cases hf : table.find? owner i with
  | none => rw [delete_of_none hf, Action.state_fail]
  | some row => rw [delete_of_some hf, Action.state_done, getElem?_remove, if_neg hne]

end Elsewhere

/-- What is not there is found by nobody. -/
theorem find?_of_absent {table : OrderTable} {id : OrderId} (h : table.rows[id]? = none)
    (owner : UserId) : table.find? owner id = none := by
  rw [find?, h]
  rfl

end OrderTable

/-! ### A row that is there -/

/-- What becomes of the row of an order in one call. -/
inductive RowFate (id : OrderId) (order : Order) : Event → Option Order → Prop where
  /-- The call is about something else, or comes to nothing. -/
  | kept {e : Event} (hupdate : ∀ o change r, e ≠ ⟨.update o id change, .done r⟩)
      (hdelete : ∀ o r, e ≠ ⟨.delete o id, .done r⟩) : RowFate id order e (some order)
  /-- The owner changes the order. -/
  | changed (change : OrderUpdate) {next : Instant}
      (hnext : order.updatedAt.nextMicrosecond? = some next) :
      RowFate id order ⟨.update order.owner id change, .done .nothing⟩
        (some { order with
          status := change.status.getD order.status
          updatedAt := change.touchedAt.latest next })
  /-- The owner changes the order, and the change is given up when the status is written. -/
  | halved (change : OrderUpdate) :
      RowFate id order ⟨.update order.owner id change, .aborted⟩
        (some { order with status := change.status.getD order.status })
  /-- The owner removes the order. -/
  | removed : RowFate id order ⟨.delete order.owner id, .done .nothing⟩ none

section Row

variable {table : OrderTable} {id : OrderId} {order : Order}

/-- The row that an owner finds under a number is the row that lies there. -/
theorem eq_of_find? (h : table.rows[id]? = some order) {o : UserId} {row : Order}
    (hf : table.find? o id = some row) : row = order ∧ o = order.owner := by
  obtain ⟨hrow, hown⟩ := OrderTable.find?_eq_some.mp hf
  obtain rfl := Option.some.inj (hrow.symm.trans h)
  exact ⟨rfl, hown.symm⟩

theorem update_row (h : table.rows[id]? = some order) (o : UserId) (i : OrderId)
    (change : OrderUpdate) :
    RowFate id order
      ⟨.update o i change, ((OrderCall.update o i change).on orderStore table).ending⟩
      ((OrderCall.update o i change).on orderStore table).state.rows[id]? := by
  rw [(on_update _ _ _ _).1, (on_update _ _ _ _).2]
  by_cases hid : i = id
  · subst hid
    cases hf : table.find? o i with
    | none =>
        rw [OrderTable.update_of_none hf, Action.state_fail, h]
        exact .kept (by simp [Ending.map]) (by simp)
    | some row =>
        obtain ⟨rfl, rfl⟩ := eq_of_find? h hf
        cases hnext : row.updatedAt.nextMicrosecond? with
        | none =>
            rw [OrderTable.update_of_last hf hnext, Action.state_abort, OrderTable.getElem?_put,
              if_pos rfl]
            exact .halved change
        | some next =>
            rw [OrderTable.update_of_some hf hnext, Action.state_done, OrderTable.getElem?_put,
              if_pos rfl]
            exact .changed change hnext
  · rw [OrderTable.getElem?_update_of_ne hid, h]
    exact .kept (by simp [hid]) (by simp)

theorem delete_row (h : table.rows[id]? = some order) (o : UserId) (i : OrderId) :
    RowFate id order ⟨.delete o i, ((OrderCall.delete o i).on orderStore table).ending⟩
      ((OrderCall.delete o i).on orderStore table).state.rows[id]? := by
  rw [(on_delete _ _ _).1, (on_delete _ _ _).2]
  by_cases hid : i = id
  · subst hid
    cases hf : table.find? o i with
    | none =>
        rw [OrderTable.delete_of_none hf, Action.state_fail, h]
        exact .kept (by simp) (by simp [Ending.map])
    | some row =>
        obtain ⟨rfl, rfl⟩ := eq_of_find? h hf
        rw [OrderTable.delete_of_some hf, Action.state_done, OrderTable.getElem?_remove,
          if_pos rfl]
        exact .removed
  · rw [OrderTable.getElem?_delete_of_ne hid, h]
    exact .kept (by simp) (by simp [hid])

/-- **What a call may do to a row.** -/
theorem row_on (hs : table.Sound) (h : table.rows[id]? = some order) (call : OrderCall) :
    RowFate id order ⟨call, (call.on orderStore table).ending⟩
      (call.on orderStore table).state.rows[id]? := by
  cases call with
  | insert o new =>
      rw [(on_insert _ _ _).2, OrderTable.getElem?_insert_of_le (hs.given id order h).2, h]
      exact .kept (by simp) (by simp)
  | list o =>
      rw [(on_list _ _).2, h]
      exact .kept (by simp) (by simp)
  | find o i =>
      rw [(on_find _ _ _).2, h]
      exact .kept (by simp) (by simp)
  | update o i change => exact update_row h o i change
  | delete o i => exact delete_row h o i

/-- Where there is no row, a call puts none, unless it gives out the number. -/
theorem absent_on (h : table.rows[id]? = none) (hid : id.value.toInt ≤ table.lastId)
    (call : OrderCall) : (call.on orderStore table).state.rows[id]? = none := by
  cases call with
  | insert o new => rw [(on_insert _ _ _).2, OrderTable.getElem?_insert_of_le hid, h]
  | list o => rw [(on_list _ _).2, h]
  | find o i => rw [(on_find _ _ _).2, h]
  | update o i change =>
      rw [(on_update _ _ _ _).2]
      by_cases hi : i = id
      · subst hi
        rw [OrderTable.update_of_none (OrderTable.find?_of_absent h o), Action.state_fail, h]
      · rw [OrderTable.getElem?_update_of_ne hi, h]
  | delete o i =>
      rw [(on_delete _ _ _).2]
      by_cases hi : i = id
      · subst hi
        rw [OrderTable.delete_of_none (OrderTable.find?_of_absent h o), Action.state_fail, h]
      · rw [OrderTable.getElem?_delete_of_ne hi, h]

end Row

end OrderDesk.Memory
