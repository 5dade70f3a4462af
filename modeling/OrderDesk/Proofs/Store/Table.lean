/-
What the table of orders holds.

A table is looked at through one function: what `find?` says an owner has under a
number.  Each operation is described by what it does to that view, and a list is
shown to hold nothing else: it is the view of its owner, in the order of the numbers.

Two facts about the rows carry everything that follows, and they are gathered in
`Sound`.  A row lies under its own number, so whoever lists the rows sees the numbers
they can be fetched by.  And no row lies above the last number given out, so the row
of a new order takes the place of no other: this is the only reason why one owner's
new order leaves the orders of the others alone.
-/
import OrderDesk.Proofs.Action
import OrderDesk.Store.Memory

namespace OrderDesk.Memory.OrderTable

/-! ### The view of an owner -/

theorem find?_eq_some {table : OrderTable} {owner : UserId} {id : OrderId} {order : Order} :
    table.find? owner id = some order ↔ table.rows[id]? = some order ∧ order.owner = owner := by
  simp [find?, Option.filter_eq_some_iff]

@[simp] theorem find?_empty (owner : UserId) (id : OrderId) : empty.find? owner id = none := by
  simp [find?, empty]

/-- A new row hides what was under its number, from its owner and from everybody else. -/
theorem find?_put (table : OrderTable) (owner : UserId) (id i : OrderId) (order : Order) :
    (table.put id order).find? owner i =
      if id = i then (if order.owner = owner then some order else none)
      else table.find? owner i := by
  by_cases h : id = i
  · subst h
    by_cases ho : order.owner = owner
    · simp [find?, put, Option.filter, ho]
    · simp [find?, put, Option.filter, ho]
  · simp [find?, put, Std.ExtTreeMap.getElem?_insert, h]

theorem find?_remove (table : OrderTable) (owner : UserId) (id i : OrderId) :
    (table.remove id).find? owner i = if id = i then none else table.find? owner i := by
  by_cases h : id = i
  · subst h
    simp [find?, remove]
  · simp [find?, remove, Std.ExtTreeMap.getElem?_erase, h]

/-- A row has one owner, so nobody else finds it. -/
theorem find?_eq_none_of_find? {table : OrderTable} {a b : UserId} {id : OrderId} {order : Order}
    (h : table.find? a id = some order) (hab : a ≠ b) : table.find? b id = none := by
  rw [find?_eq_some] at h
  obtain ⟨hrow, rfl⟩ := h
  simp [find?, hrow, Option.filter, hab]

/-! ### The list of an owner -/

/-- The rows of one owner, with their numbers. -/
def ownRows (table : OrderTable) (owner : UserId) : Std.ExtTreeMap OrderId Order :=
  table.rows.filter fun _ order => order.owner == owner

theorem getElem?_ownRows (table : OrderTable) (owner : UserId) (id : OrderId) :
    (table.ownRows owner)[id]? = table.find? owner id := by
  simp [ownRows, find?]

theorem ownedBy_eq (table : OrderTable) (owner : UserId) :
    table.ownedBy owner = (table.ownRows owner).toList.map Prod.snd := by
  rw [ownedBy, ownRows, Std.ExtTreeMap.toList_filter, List.filter_map]
  rfl

/-- The list of an owner is made from the view of that owner alone. -/
theorem ownedBy_congr {s t : OrderTable} {owner : UserId}
    (h : ∀ id, s.find? owner id = t.find? owner id) : s.ownedBy owner = t.ownedBy owner := by
  have hrows : s.ownRows owner = t.ownRows owner :=
    Std.ExtTreeMap.ext_getElem? fun id => by rw [getElem?_ownRows, getElem?_ownRows, h]
  rw [ownedBy_eq, ownedBy_eq, hrows]

theorem mem_ownedBy {table : OrderTable} {owner : UserId} {order : Order} :
    order ∈ table.ownedBy owner ↔ ∃ id, table.find? owner id = some order := by
  simp [ownedBy_eq, getElem?_ownRows]

/-! ### Soundness -/

/-- What is true of every table that the operations lead to. -/
structure Sound (table : OrderTable) : Prop where
  /-- Every row lies under its own number. -/
  ownId : ∀ (id : OrderId) (order : Order), table.rows[id]? = some order → order.id = id
  /-- Every number in use has been given out. -/
  given : ∀ (id : OrderId) (order : Order), table.rows[id]? = some order →
    1 ≤ id.value.toInt ∧ id.value.toInt ≤ table.lastId
  /-- Not more numbers have been given out than there are. -/
  bounded : table.lastId ≤ maxId

theorem sound_empty : Sound empty := by
  refine ⟨?_, ?_, Nat.zero_le _⟩
  · intro id order h
    simp [empty] at h
  · intro id order h
    simp [empty] at h

/-- Putting a row under its own number, which has been given out, keeps a table sound. -/
theorem Sound.put {table : OrderTable} (h : Sound table) {id : OrderId} {order : Order}
    (hid : order.id = id) (hgiven : 1 ≤ id.value.toInt ∧ id.value.toInt ≤ table.lastId) :
    Sound (table.put id order) := by
  have hrows : ∀ (i : OrderId) (row : Order), (table.put id order).rows[i]? = some row →
      (id = i ∧ row = order) ∨ table.rows[i]? = some row := by
    intro i row hrow
    rw [OrderTable.put, Std.ExtTreeMap.getElem?_insert] at hrow
    split at hrow
    · next hi => exact Or.inl ⟨by simpa using hi, by simpa using hrow.symm⟩
    · exact Or.inr hrow
  refine ⟨?_, ?_, h.bounded⟩
  · intro i row hrow
    rcases hrows i row hrow with ⟨rfl, rfl⟩ | hold
    · exact hid
    · exact h.ownId i row hold
  · intro i row hrow
    rcases hrows i row hrow with ⟨rfl, rfl⟩ | hold
    · exact hgiven
    · exact h.given i row hold

theorem Sound.remove {table : OrderTable} (h : Sound table) (id : OrderId) :
    Sound (table.remove id) := by
  have hrows : ∀ (i : OrderId) (row : Order), (table.remove id).rows[i]? = some row →
      table.rows[i]? = some row := by
    intro i row hrow
    rw [OrderTable.remove, Std.ExtTreeMap.getElem?_erase] at hrow
    split at hrow
    · simp at hrow
    · exact hrow
  exact ⟨fun i row hrow => h.ownId i row (hrows i row hrow),
    fun i row hrow => h.given i row (hrows i row hrow), h.bounded⟩

/-- Counting on keeps a table sound. -/
theorem Sound.count {table : OrderTable} (h : Sound table) {n : Nat} (hn : table.lastId ≤ n)
    (hmax : n ≤ maxId) : Sound { table with lastId := n } := by
  refine ⟨h.ownId, ?_, hmax⟩
  intro id order hrow
  obtain ⟨h1, h2⟩ := h.given id order hrow
  exact ⟨h1, by simp only; omega⟩

theorem Sound.id_of_find? {table : OrderTable} (h : Sound table) {owner : UserId} {id : OrderId}
    {order : Order} (hf : table.find? owner id = some order) : order.id = id :=
  h.ownId id order (find?_eq_some.mp hf).1

theorem Sound.mem_ownedBy_iff {table : OrderTable} (h : Sound table) {owner : UserId}
    {order : Order} : order ∈ table.ownedBy owner ↔ table.find? owner order.id = some order := by
  rw [mem_ownedBy]
  constructor
  · rintro ⟨id, hid⟩
    rwa [h.id_of_find? hid]
  · intro hf
    exact ⟨_, hf⟩

/-- A list is in the order of the numbers, so no order is in it twice. -/
theorem Sound.ownedBy_sorted {table : OrderTable} (h : Sound table) (owner : UserId) :
    (table.ownedBy owner).Pairwise fun a b => a.id.value < b.id.value := by
  rw [ownedBy_eq, List.pairwise_map]
  refine Std.ExtTreeMap.ordered_keys_toList.imp_of_mem ?_
  intro a b ha hb hlt
  have hid : ∀ p ∈ (table.ownRows owner).toList, p.2.id = p.1 := by
    intro p hp
    have hrow : (table.ownRows owner)[p.1]? = some p.2 :=
      Std.ExtTreeMap.mem_toList_iff_getElem?_eq_some.mp hp
    exact h.id_of_find? ((getElem?_ownRows table owner p.1).symm.trans hrow)
  rw [hid a ha, hid b hb]
  exact Std.compare_eq_lt.mp hlt

/-! ### New orders -/

theorem toInt_nextId {table : OrderTable} (h : table.lastId < maxId) :
    table.nextId.value.toInt = table.lastId + 1 := by
  have hlt : table.lastId + 1 < 2 ^ 31 := by
    unfold maxId at h
    omega
  rw [nextId, Int32.toInt_ofNat_of_lt hlt]
  rfl

theorem insert_of_lt {table : OrderTable} (h : table.lastId < maxId) (owner : UserId)
    (order : NewOrder) :
    insert owner order table = Action.done table.nextId (table.add owner order) := if_pos h

theorem insert_of_not_lt {table : OrderTable} (h : ¬table.lastId < maxId) (owner : UserId)
    (order : NewOrder) : insert owner order table = Action.abort table := if_neg h

theorem find?_add (table : OrderTable) (owner o : UserId) (order : NewOrder) (i : OrderId) :
    (table.add o order).find? owner i =
      if table.nextId = i then (if o = owner then some (order.row table.nextId o) else none)
      else table.find? owner i :=
  find?_put table owner table.nextId i (order.row table.nextId o)

/-- The number of the next order is not in use. -/
theorem Sound.absent_nextId {table : OrderTable} (h : Sound table) (hlt : table.lastId < maxId) :
    table.rows[table.nextId]? = none := by
  cases hrow : table.rows[table.nextId]? with
  | none => rfl
  | some order =>
      have hle := (h.given _ _ hrow).2
      rw [toInt_nextId hlt] at hle
      omega

theorem Sound.find?_nextId {table : OrderTable} (h : Sound table) (hlt : table.lastId < maxId)
    (owner : UserId) : table.find? owner table.nextId = none := by
  rw [find?, h.absent_nextId hlt]
  rfl

theorem Sound.add {table : OrderTable} (h : Sound table) (hlt : table.lastId < maxId)
    (owner : UserId) (order : NewOrder) : Sound (table.add owner order) := by
  have hcount : Sound { table with lastId := table.lastId + 1 } :=
    h.count (Nat.le_succ _) hlt
  refine hcount.put rfl ?_
  rw [toInt_nextId hlt]
  simp only
  omega

/-! ### The cases of an operation -/

section Cases

variable {table : OrderTable} {owner : UserId} {id : OrderId}

theorem findOne_of_none (h : table.find? owner id = none) :
    findOne owner id table = Action.fail .notFound table := by
  rw [findOne, h]

theorem findOne_of_some {order : Order} (h : table.find? owner id = some order) :
    findOne owner id table = Action.done order table := by
  rw [findOne, h]

theorem update_of_none (h : table.find? owner id = none) (change : OrderUpdate) :
    update owner id change table = Action.fail .notFound table := by
  rw [update, h]

/-- A change that goes through. -/
theorem update_of_some {order : Order} (h : table.find? owner id = some order) {next : Instant}
    (hnext : order.updatedAt.nextMicrosecond? = some next) (change : OrderUpdate) :
    update owner id change table =
      Action.done () (table.put id
        { order with
          status := change.status.getD order.status
          updatedAt := change.touchedAt.latest next }) := by
  simp only [update, h, hnext]

/-- A change for which there is no next microsecond has written the status. -/
theorem update_of_last {order : Order} (h : table.find? owner id = some order)
    (hnext : order.updatedAt.nextMicrosecond? = none) (change : OrderUpdate) :
    update owner id change table =
      Action.abort (table.put id
        { order with status := change.status.getD order.status }) := by
  simp only [update, h, hnext]

theorem delete_of_none (h : table.find? owner id = none) :
    delete owner id table = Action.fail .notFound table := by
  rw [delete, h]

theorem delete_of_some {order : Order} (h : table.find? owner id = some order) :
    delete owner id table = Action.done () (table.remove id) := by
  rw [delete, h]

end Cases

/-! ### What an operation leaves alone

Whatever an owner does, the table stays sound and nobody else sees a change.
-/

/-- What everybody but this owner sees of a table. -/
def elsewhere (owner : UserId) (table : OrderTable) (o : UserId) (id : OrderId) : Option Order :=
  if o = owner then none else table.find? o id

theorem elsewhere_of_ne {owner o : UserId} (h : o ≠ owner) (table : OrderTable) (id : OrderId) :
    table.elsewhere owner o id = table.find? o id := if_neg h

/-- A row that its owner finds may be replaced by another of the same owner. -/
theorem elsewhere_put {table : OrderTable} {owner : UserId} {id : OrderId} {order : Order}
    (hown : order.owner = owner) (hfree : ∀ o, o ≠ owner → table.find? o id = none) :
    (table.put id order).elsewhere owner = table.elsewhere owner := by
  funext o i
  unfold elsewhere
  split
  · rfl
  · next ho =>
    rw [find?_put]
    split
    · next hi =>
      rw [if_neg (by rw [hown]; exact Ne.symm ho), ← hi, hfree o ho]
    · rfl

theorem insert_keeps (owner : UserId) (order : NewOrder) :
    Action.Keeps Sound (elsewhere owner) (insert owner order) := by
  intro table h
  by_cases hlt : table.lastId < maxId
  · rw [insert_of_lt hlt, Action.state_done]
    refine ⟨h.add hlt owner order, ?_⟩
    exact elsewhere_put rfl fun o _ => h.find?_nextId hlt o
  · rw [insert_of_not_lt hlt]
    exact ⟨h, rfl⟩

theorem listByOwner_keeps (owner : UserId) :
    Action.Keeps Sound (elsewhere owner) (listByOwner owner) := fun _ h => ⟨h, rfl⟩

theorem findOne_keeps (owner : UserId) (id : OrderId) :
    Action.Keeps Sound (elsewhere owner) (findOne owner id) := by
  intro table h
  cases hf : table.find? owner id with
  | none => rw [findOne_of_none hf]; exact ⟨h, rfl⟩
  | some order => rw [findOne_of_some hf]; exact ⟨h, rfl⟩

/-- A row that its owner finds may be replaced by another of the same number and owner. -/
theorem Sound.rewrite {table : OrderTable} (h : Sound table) {owner : UserId} {id : OrderId}
    {order order' : Order} (hf : table.find? owner id = some order) (hid : order'.id = order.id)
    (hown : order'.owner = order.owner) :
    Sound (table.put id order') ∧
      (table.put id order').elsewhere owner = table.elsewhere owner := by
  obtain ⟨hrow, ho⟩ := find?_eq_some.mp hf
  refine ⟨h.put (hid.trans (h.ownId id order hrow)) (h.given id order hrow), ?_⟩
  refine elsewhere_put (hown.trans ho) ?_
  intro o hne
  exact find?_eq_none_of_find? hf (Ne.symm hne)

theorem update_keeps (owner : UserId) (id : OrderId) (change : OrderUpdate) :
    Action.Keeps Sound (elsewhere owner) (update owner id change) := by
  intro table h
  cases hf : table.find? owner id with
  | none => rw [update_of_none hf]; exact ⟨h, rfl⟩
  | some order =>
      cases hnext : order.updatedAt.nextMicrosecond? with
      | none =>
          rw [update_of_last hf hnext, Action.state_abort]
          exact h.rewrite hf rfl rfl
      | some next =>
          rw [update_of_some hf hnext, Action.state_done]
          exact h.rewrite hf rfl rfl

/-- Without the row that its owner finds, everybody else sees what they saw. -/
theorem elsewhere_remove {table : OrderTable} {owner : UserId} {id : OrderId} {order : Order}
    (hf : table.find? owner id = some order) :
    (table.remove id).elsewhere owner = table.elsewhere owner := by
  funext o i
  unfold elsewhere
  split
  · rfl
  · next ho =>
    rw [find?_remove]
    split
    · next hi => rw [← hi, find?_eq_none_of_find? hf (Ne.symm ho)]
    · rfl

theorem delete_keeps (owner : UserId) (id : OrderId) :
    Action.Keeps Sound (elsewhere owner) (delete owner id) := by
  intro table h
  cases hf : table.find? owner id with
  | none => rw [delete_of_none hf]; exact ⟨h, rfl⟩
  | some order =>
      rw [delete_of_some hf, Action.state_done]
      exact ⟨h.remove id, elsewhere_remove hf⟩

/-! ### What an operation is told by

The owner who calls learns nothing but what follows from the owner's own view and the
last number given out.
-/

/-- Two tables that an owner cannot tell apart. -/
structure Alike (owner : UserId) (s t : OrderTable) : Prop where
  lastId : s.lastId = t.lastId
  view : ∀ id, s.find? owner id = t.find? owner id

theorem Alike.nextId {owner : UserId} {s t : OrderTable} (h : Alike owner s t) :
    s.nextId = t.nextId := by
  rw [OrderTable.nextId, OrderTable.nextId, h.lastId]

theorem Alike.put {owner : UserId} {s t : OrderTable} (h : Alike owner s t) (id : OrderId)
    (order : Order) : Alike owner (s.put id order) (t.put id order) := by
  refine ⟨h.lastId, ?_⟩
  intro i
  rw [find?_put, find?_put, h.view]

theorem Alike.remove {owner : UserId} {s t : OrderTable} (h : Alike owner s t) (id : OrderId) :
    Alike owner (s.remove id) (t.remove id) := by
  refine ⟨h.lastId, ?_⟩
  intro i
  rw [find?_remove, find?_remove, h.view]

theorem Alike.add {owner : UserId} {s t : OrderTable} (h : Alike owner s t) (order : NewOrder) :
    Alike owner (s.add owner order) (t.add owner order) := by
  refine ⟨congrArg (· + 1) h.lastId, ?_⟩
  intro i
  rw [find?_add, find?_add, ← h.nextId, h.view]

theorem insert_respects (owner : UserId) (order : NewOrder) :
    Action.Respects (Alike owner) (insert owner order) := by
  intro s t h
  by_cases hlt : s.lastId < maxId
  · rw [insert_of_lt hlt, insert_of_lt (h.lastId ▸ hlt), ← h.nextId]
    simp only [Action.ending_done, Action.log_done, Action.state_done]
    exact ⟨trivial, trivial, h.add order⟩
  · rw [insert_of_not_lt hlt, insert_of_not_lt (h.lastId ▸ hlt)]
    exact ⟨rfl, rfl, h⟩

theorem listByOwner_respects (owner : UserId) :
    Action.Respects (Alike owner) (listByOwner owner) := by
  intro s t h
  refine ⟨?_, rfl, h⟩
  simp only [listByOwner, Action.done, ownedBy_congr h.view]

theorem findOne_respects (owner : UserId) (id : OrderId) :
    Action.Respects (Alike owner) (findOne owner id) := by
  intro s t h
  cases hf : s.find? owner id with
  | none =>
      rw [findOne_of_none hf, findOne_of_none (h.view id ▸ hf)]
      exact ⟨rfl, rfl, h⟩
  | some order =>
      rw [findOne_of_some hf, findOne_of_some (h.view id ▸ hf)]
      exact ⟨rfl, rfl, h⟩

theorem update_respects (owner : UserId) (id : OrderId) (change : OrderUpdate) :
    Action.Respects (Alike owner) (update owner id change) := by
  intro s t h
  cases hf : s.find? owner id with
  | none =>
      rw [update_of_none hf, update_of_none (h.view id ▸ hf)]
      exact ⟨rfl, rfl, h⟩
  | some order =>
      have hf' : t.find? owner id = some order := h.view id ▸ hf
      cases hnext : order.updatedAt.nextMicrosecond? with
      | none =>
          rw [update_of_last hf hnext, update_of_last hf' hnext]
          simp only [Action.ending_abort, Action.log_abort, Action.state_abort, true_and]
          exact h.put id _
      | some next =>
          rw [update_of_some hf hnext, update_of_some hf' hnext]
          simp only [Action.ending_done, Action.log_done, Action.state_done, true_and]
          exact h.put id _

theorem delete_respects (owner : UserId) (id : OrderId) :
    Action.Respects (Alike owner) (delete owner id) := by
  intro s t h
  cases hf : s.find? owner id with
  | none =>
      rw [delete_of_none hf, delete_of_none (h.view id ▸ hf)]
      exact ⟨rfl, rfl, h⟩
  | some order =>
      rw [delete_of_some hf, delete_of_some (h.view id ▸ hf)]
      simp only [Action.ending_done, Action.log_done, Action.state_done, true_and]
      exact h.remove id

end OrderDesk.Memory.OrderTable
