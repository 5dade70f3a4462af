/-
The store of orders as one private book for each owner.

All owners share one table and one count of numbers, and their calls come in any
order.  Here it is shown that each of them is nevertheless served from a book of the
orders that only this owner's calls have written: what the book holds is said by the
owner's own successful calls, and nothing anybody else calls changes an answer.

The book is described twice.  `entry` replays the events and keeps what they leave of
one number, which is what a step of the table can be compared with.  `Stands` says it
without replaying: an order is in the book when it was inserted and not deleted since,
and its status is the last one that it was given.  The two agree because no number is
given out twice, so an insertion in the history cannot be covered by a later one.
-/
import Mathlib.Data.List.Induction
import Mathlib.Data.List.Nodup
import OrderDesk.Proofs.Store.Calls

namespace OrderDesk.Memory

/-! ### Reading the history -/

/-- The order after a change that went through. -/
def changed (order : Order) (change : OrderUpdate) : Order :=
  { order with
    status := change.status.getD order.status
    updatedAt := change.touchedAt.latest
      (order.updatedAt.nextMicrosecond?.getD order.updatedAt) }

/-- What an event leaves of the order that an owner has under a number. -/
def Event.amend (owner : UserId) (id : OrderId) (seen : Option Order) : Event → Option Order
  | ⟨.insert o order, .done (.number i)⟩ =>
    if o = owner ∧ i = id then some (order.row i o) else seen
  | ⟨.update o i change, .done .nothing⟩ =>
    if o = owner ∧ i = id then seen.map (changed · change) else seen
  | ⟨.delete o i, .done .nothing⟩ => if o = owner ∧ i = id then none else seen
  | _ => seen

/-- The order that an owner has under a number, as the events tell. -/
def entry (owner : UserId) (id : OrderId) (events : List Event) : Option Order :=
  events.foldl (Event.amend owner id) none

theorem entry_snoc (owner : UserId) (id : OrderId) (events : List Event) (e : Event) :
    entry owner id (events ++ [e]) = e.amend owner id (entry owner id events) := by
  rw [entry, List.foldl_append]
  rfl

/-- The number that an event gives out. -/
def Event.number? : Event → Option OrderId
  | ⟨_, .done (.number id)⟩ => some id
  | _ => none

/-- The numbers that were given out, earliest first. -/
def numbers (events : List Event) : List OrderId := events.filterMap Event.number?

/-- The change of one order of an owner that an event made. -/
def Event.change? (owner : UserId) (id : OrderId) : Event → Option OrderUpdate
  | ⟨.update o i change, .done .nothing⟩ => if o = owner ∧ i = id then some change else none
  | _ => none

/-- The changes of one order of an owner, earliest first. -/
def changes (owner : UserId) (id : OrderId) (events : List Event) : List OrderUpdate :=
  events.filterMap (Event.change? owner id)

theorem changes_append (owner : UserId) (id : OrderId) (xs ys : List Event) :
    changes owner id (xs ++ ys) = changes owner id xs ++ changes owner id ys :=
  List.filterMap_append ..

theorem changes_cons (owner : UserId) (id : OrderId) (e : Event) (events : List Event) :
    changes owner id (e :: events) =
      (e.change? owner id).toList ++ changes owner id events := by
  unfold changes
  cases h : e.change? owner id with
  | none => rw [List.filterMap_cons_none h]; rfl
  | some c => rw [List.filterMap_cons_some h]; rfl

/-- The events tell that an owner has this order: it was inserted, it was not deleted since, and
it has the status and the time that the changes since then have given it. -/
def Stands (owner : UserId) (events : List Event) (order : Order) : Prop :=
  ∃ before inserted after,
    events = before ++ ⟨.insert owner inserted, .done (.number order.id)⟩ :: after ∧
    ⟨.delete owner order.id, .done .nothing⟩ ∉ after ∧
    order.owner = owner ∧
    order.createdAt = inserted.createdAt ∧
    order.status =
      ((changes owner order.id after).filterMap OrderUpdate.status).getLast?.getD
        inserted.status ∧
    order.updatedAt =
      (changes owner order.id after).foldl
        (fun last change => change.touchedAt.latest (last.nextMicrosecond?.getD last))
        inserted.updatedAt

/-! ### Several changes -/

/-- The last of several values that are there, or else the value before them. -/
theorem getLast?_filterMap_cons {α β : Type} (f : α → Option β) (a : α) (as : List α) (b : β) :
    ((a :: as).filterMap f).getLast?.getD b = (as.filterMap f).getLast?.getD ((f a).getD b) := by
  cases hf : f a with
  | none => rw [List.filterMap_cons_none hf, Option.getD_none]
  | some c =>
      rw [List.filterMap_cons_some hf, Option.getD_some, List.getLast?_cons, Option.getD_some]

/-- After several changes an order has the last status that was asked for. -/
theorem foldl_changed (cs : List OrderUpdate) (order : Order) :
    cs.foldl changed order =
      { order with
        status := (cs.filterMap OrderUpdate.status).getLast?.getD order.status
        updatedAt := cs.foldl
          (fun last change => change.touchedAt.latest (last.nextMicrosecond?.getD last))
          order.updatedAt } := by
  induction cs generalizing order with
  | nil => rfl
  | cons c rest ih => rw [List.foldl_cons, ih, getLast?_filterMap_cons]; rfl

theorem Stands_iff {owner : UserId} {events : List Event} {order : Order} :
    Stands owner events order ↔ ∃ before inserted after,
      events = before ++ ⟨.insert owner inserted, .done (.number order.id)⟩ :: after ∧
      ⟨.delete owner order.id, .done .nothing⟩ ∉ after ∧
      order = (changes owner order.id after).foldl changed (inserted.row order.id owner) := by
  constructor
  · rintro ⟨before, inserted, after, hsplit, hdel, howner, hcreated, hstatus, hupdated⟩
    refine ⟨before, inserted, after, hsplit, hdel, ?_⟩
    rw [foldl_changed]
    cases order
    simp only at howner hcreated hstatus hupdated
    simp only [NewOrder.row, Order.mk.injEq, true_and]
    exact ⟨howner, hstatus, hcreated, hupdated⟩
  · rintro ⟨before, inserted, after, hsplit, hdel, horder⟩
    refine ⟨before, inserted, after, hsplit, hdel, ?_⟩
    rw [foldl_changed] at horder
    exact ⟨congrArg Order.owner horder, congrArg Order.createdAt horder,
      congrArg Order.status horder, congrArg Order.updatedAt horder⟩

theorem changed_id (order : Order) (cs : List OrderUpdate) :
    (cs.foldl changed order).id = order.id := by
  rw [foldl_changed]

/-! ### The two readings agree -/

/-- The event removes the order that an owner has under a number. -/
abbrev removal (owner : UserId) (id : OrderId) : Event := ⟨.delete owner id, .done .nothing⟩

/-- An event that neither gives out a number nor removes its order at most changes the order. -/
theorem amend_some {owner : UserId} {id : OrderId} {e : Event} (order : Order)
    (hnumber : e.number? ≠ some id) (hdel : e ≠ removal owner id) :
    e.amend owner id (some order) =
      some (((e.change? owner id).toList).foldl changed order) := by
  unfold Event.amend
  split
  · next o new i =>
    rw [if_neg (fun h => hnumber (by rw [← h.2]; rfl))]
    rfl
  · next o i change =>
    show _ = some ((if _ then _ else _ : Option OrderUpdate).toList.foldl changed order)
    split <;> rfl
  · next o i =>
    rw [if_neg (fun h => hdel (by rw [← h.1, ← h.2]))]
    rfl
  · next _ hupdate _ =>
    unfold Event.change?
    split
    · next o i change => exact absurd rfl (hupdate _ _ _)
    · rfl

/-- Events among which a number is neither given out nor its order removed only change the order,
one change after another. -/
theorem foldl_amend {owner : UserId} {id : OrderId} {events : List Event} (order : Order)
    (hnumber : id ∉ numbers events) (hdel : removal owner id ∉ events) :
    events.foldl (Event.amend owner id) (some order) =
      some ((changes owner id events).foldl changed order) := by
  induction events generalizing order with
  | nil => rfl
  | cons e rest ih =>
      have hne : e.number? ≠ some id := by
        intro h
        exact hnumber (List.mem_filterMap.mpr ⟨e, List.mem_cons_self .., h⟩)
      have hrest : id ∉ numbers rest := by
        intro h
        obtain ⟨e', he', hid⟩ := List.mem_filterMap.mp h
        exact hnumber (List.mem_filterMap.mpr ⟨e', List.mem_cons_of_mem _ he', hid⟩)
      rw [List.mem_cons, not_or] at hdel
      rw [List.foldl_cons, amend_some order hne (Ne.symm hdel.1), ih _ hrest hdel.2,
        ← List.foldl_append]
      rw [changes_cons]

/-- What stands in the history is what the replay leaves, as no number is given out twice. -/
theorem entry_of_stands {owner : UserId} {events : List Event} {order : Order}
    (hnodup : (numbers events).Nodup) (h : Stands owner events order) :
    entry owner order.id events = some order := by
  obtain ⟨before, inserted, after, rfl, hdel, horder⟩ := Stands_iff.mp h
  have hafter : order.id ∉ numbers after := by
    rw [numbers, List.filterMap_append] at hnodup
    exact (List.nodup_cons.mp (List.nodup_append.mp hnodup).2.1).1
  rw [entry, List.foldl_append, List.foldl_cons]
  show after.foldl (Event.amend owner order.id) (if _ then _ else _) = _
  rw [if_pos ⟨rfl, rfl⟩, foldl_amend _ hafter hdel, ← horder]

/-- One more event, which does not remove the order, adds at most a change to what stands. -/
theorem stands_snoc {owner : UserId} {events : List Event} {order : Order} {e : Event}
    (h : Stands owner events order) (hdel : e ≠ removal owner order.id) :
    Stands owner (events ++ [e])
      ((e.change? owner order.id).toList.foldl changed order) := by
  rw [Stands_iff] at h ⊢
  obtain ⟨before, inserted, after, rfl, hnot, horder⟩ := h
  rw [changed_id]
  refine ⟨before, inserted, after ++ [e], by rw [List.append_assoc]; rfl, ?_, ?_⟩
  · rw [List.mem_append, List.mem_singleton, not_or]
    exact ⟨hnot, Ne.symm hdel⟩
  · rw [changes_append, List.foldl_append, ← horder, changes_cons]
    exact congrArg (List.foldl changed order) (List.append_nil _).symm

/-- An entry is written by an insertion, or is left by an event that does not remove it of the
entry that was there before. -/
theorem amend_eq_some {owner : UserId} {id : OrderId} {seen : Option Order} {e : Event}
    {order : Order} (h : e.amend owner id seen = some order) :
    (∃ new, e = ⟨.insert owner new, .done (.number id)⟩ ∧ order = new.row id owner) ∨
      (e ≠ removal owner id ∧ ∃ old, seen = some old ∧
        order = (e.change? owner id).toList.foldl changed old) := by
  unfold Event.amend at h
  split at h
  · next o new i =>
    split at h
    · next hown =>
      obtain ⟨rfl, rfl⟩ := hown
      exact Or.inl ⟨new, rfl, by simpa using h.symm⟩
    · exact Or.inr ⟨by simp, order, h, rfl⟩
  · next o i change =>
    have hc : Event.change? owner id ⟨.update o i change, .done .nothing⟩ =
        if o = owner ∧ i = id then some change else none := rfl
    refine Or.inr ⟨by simp, ?_⟩
    rw [hc]
    split at h
    · next hown =>
      rw [if_pos hown]
      obtain ⟨old, hold, rfl⟩ := Option.map_eq_some_iff.mp h
      exact ⟨old, hold, rfl⟩
    · next hown =>
      rw [if_neg hown]
      exact ⟨order, h, rfl⟩
  · next o i =>
    split at h
    · simp at h
    · next hown =>
      refine Or.inr ⟨?_, order, h, rfl⟩
      intro heq
      simp only [Event.mk.injEq, OrderCall.delete.injEq, and_true] at heq
      exact hown heq
  · next _ hupdate hdelete =>
    refine Or.inr ⟨hdelete _ _, order, h, ?_⟩
    unfold Event.change?
    split
    · exact absurd rfl (hupdate _ _ _)
    · rfl

/-- What the replay leaves stands in the history. -/
theorem stands_of_entry {owner : UserId} {id : OrderId} {events : List Event} {order : Order}
    (h : entry owner id events = some order) : order.id = id ∧ Stands owner events order := by
  induction events using List.reverseRecOn generalizing order with
  | nil => simp [entry] at h
  | append_singleton events e ih =>
      rw [entry_snoc] at h
      rcases amend_eq_some h with ⟨new, rfl, rfl⟩ | ⟨hdel, old, hold, rfl⟩
      · exact ⟨rfl, Stands_iff.mpr ⟨events, new, [], rfl, by simp, rfl⟩⟩
      · obtain ⟨rfl, hstands⟩ := ih hold
        exact ⟨changed_id _ _, stands_snoc hstands hdel⟩

/-! ### The table follows the history -/

section Step

variable {table : OrderTable}

/-- A new order becomes the entry of its owner under the number that is given out. -/
theorem find?_insert (h : table.Sound) (o : UserId) (new : NewOrder) (owner : UserId)
    (id : OrderId) :
    ((OrderCall.insert o new).on orderStore table).state.find? owner id =
      Event.amend owner id (table.find? owner id)
        ⟨.insert o new, ((OrderCall.insert o new).on orderStore table).ending⟩ := by
  rw [(on_insert _ _ _).1, (on_insert _ _ _).2]
  by_cases hlt : table.lastId < maxId
  · rw [OrderTable.insert_of_lt hlt, Action.ending_done, Action.state_done, OrderTable.find?_add]
    show _ = if o = owner ∧ table.nextId = id then _ else _
    by_cases hid : table.nextId = id
    · by_cases ho : o = owner
      · rw [if_pos hid, if_pos ho, if_pos ⟨ho, hid⟩]
      · rw [if_pos hid, if_neg ho, if_neg (fun hc => ho hc.1), ← hid, h.find?_nextId hlt]
    · rw [if_neg hid, if_neg (fun hc => hid hc.2)]
  · rw [OrderTable.insert_of_not_lt hlt]
    rfl

/-- A change that is not given up is made to the entry of its owner. -/
theorem find?_update {o : UserId} {i : OrderId} {change : OrderUpdate}
    (hwhole : ((OrderCall.update o i change).on orderStore table).ending ≠ .aborted)
    (owner : UserId) (id : OrderId) :
    ((OrderCall.update o i change).on orderStore table).state.find? owner id =
      Event.amend owner id (table.find? owner id)
        ⟨.update o i change, ((OrderCall.update o i change).on orderStore table).ending⟩ := by
  rw [(on_update _ _ _ _).1] at hwhole ⊢
  rw [(on_update _ _ _ _).2]
  cases hf : table.find? o i with
  | none => rw [OrderTable.update_of_none hf]; rfl
  | some order =>
      cases hnext : order.updatedAt.nextMicrosecond? with
      | none =>
          refine absurd ?_ hwhole
          rw [OrderTable.update_of_last hf hnext]
          rfl
      | some time =>
          rw [OrderTable.update_of_some hf hnext, Action.ending_done, Action.state_done,
            OrderTable.find?_put]
          show _ = if o = owner ∧ i = id then _ else _
          by_cases hid : i = id
          · subst hid
            have hown : order.owner = o := (OrderTable.find?_eq_some.mp hf).2
            by_cases ho : o = owner
            · subst ho
              rw [if_pos rfl, if_pos hown, if_pos ⟨rfl, rfl⟩, hf, Option.map_some, changed,
                hnext, Option.getD_some]
            · rw [if_pos rfl, if_neg (hown ▸ ho), if_neg (fun hc => ho hc.1),
                OrderTable.find?_eq_none_of_find? hf ho]
          · rw [if_neg hid, if_neg (fun hc => hid hc.2)]

/-- A deletion takes away the entry of its owner. -/
theorem find?_delete (o : UserId) (i : OrderId) (owner : UserId) (id : OrderId) :
    ((OrderCall.delete o i).on orderStore table).state.find? owner id =
      Event.amend owner id (table.find? owner id)
        ⟨.delete o i, ((OrderCall.delete o i).on orderStore table).ending⟩ := by
  rw [(on_delete _ _ _).1, (on_delete _ _ _).2]
  cases hf : table.find? o i with
  | none => rw [OrderTable.delete_of_none hf]; rfl
  | some order =>
      rw [OrderTable.delete_of_some hf, Action.ending_done, Action.state_done,
        OrderTable.find?_remove]
      show _ = if o = owner ∧ i = id then _ else _
      by_cases hid : i = id
      · subst hid
        by_cases ho : o = owner
        · rw [if_pos rfl, if_pos ⟨ho, rfl⟩]
        · rw [if_pos rfl, if_neg (fun hc => ho hc.1), OrderTable.find?_eq_none_of_find? hf ho]
      · rw [if_neg hid, if_neg (fun hc => hid hc.2)]

/-- One more call does to every entry of the table what its event says, unless it is a change that
is given up. -/
theorem find?_on (h : table.Sound) {call : OrderCall}
    (hwhole : call.isUpdate → (call.on orderStore table).ending ≠ .aborted)
    (owner : UserId) (id : OrderId) :
    (call.on orderStore table).state.find? owner id =
      Event.amend owner id (table.find? owner id) ⟨call, (call.on orderStore table).ending⟩ := by
  cases call with
  | list o => rw [(on_list _ _).1, (on_list _ _).2]; rfl
  | find o i => rw [(on_find _ _ _).2]; rfl
  | insert o new => exact find?_insert h o new owner id
  | update o i change => exact find?_update (hwhole rfl) owner id
  | delete o i => exact find?_delete o i owner id

/-- Nothing but an insertion gives out a number or moves the count of numbers. -/
theorem number?_of_not_insert {call : OrderCall} (hcall : call.isInsert = false)
    (table : OrderTable) :
    Event.number? ⟨call, (call.on orderStore table).ending⟩ = none ∧
      (call.on orderStore table).state.lastId = table.lastId := by
  cases call with
  | insert o new => cases hcall
  | list o =>
      rw [(on_list _ _).1, (on_list _ _).2]
      exact ⟨rfl, rfl⟩
  | find o i =>
      rw [(on_find _ _ _).1, (on_find _ _ _).2]
      refine ⟨?_, rfl⟩
      cases (OrderTable.findOne o i table).ending <;> rfl
  | update o i change =>
      rw [(on_update _ _ _ _).1, (on_update _ _ _ _).2]
      cases hf : table.find? o i with
      | none => rw [OrderTable.update_of_none hf]; exact ⟨rfl, rfl⟩
      | some order =>
          cases hnext : order.updatedAt.nextMicrosecond? with
          | none => rw [OrderTable.update_of_last hf hnext]; exact ⟨rfl, rfl⟩
          | some time => rw [OrderTable.update_of_some hf hnext]; exact ⟨rfl, rfl⟩
  | delete o i =>
      rw [(on_delete _ _ _).1, (on_delete _ _ _).2]
      cases hf : table.find? o i with
      | none => rw [OrderTable.delete_of_none hf]; exact ⟨rfl, rfl⟩
      | some order => rw [OrderTable.delete_of_some hf]; exact ⟨rfl, rfl⟩

/-- A call gives out the next number, or none. -/
theorem number?_on (call : OrderCall) (table : OrderTable) :
    (call.isInsert = true ∧ table.lastId < maxId ∧
        (call.on orderStore table).ending = .done (.number table.nextId) ∧
        (call.on orderStore table).state.lastId = table.lastId + 1) ∨
      ((call.isInsert = true → ¬table.lastId < maxId) ∧
        Event.number? ⟨call, (call.on orderStore table).ending⟩ = none ∧
        (call.on orderStore table).state.lastId = table.lastId) := by
  by_cases hcall : call.isInsert = true
  · cases call with
    | insert o new =>
        rw [(on_insert _ _ _).1, (on_insert _ _ _).2]
        by_cases hlt : table.lastId < maxId
        · rw [OrderTable.insert_of_lt hlt]
          exact Or.inl ⟨rfl, hlt, rfl, rfl⟩
        · rw [OrderTable.insert_of_not_lt hlt]
          exact Or.inr ⟨fun _ => hlt, rfl, rfl⟩
    | _ => cases hcall
  · exact Or.inr ⟨fun h => absurd h hcall,
      number?_of_not_insert (Bool.eq_false_iff.mpr hcall) table⟩

end Step

/-! ### Runs -/

/-- What every run keeps up: the table is sound, and the numbers that were given out are those from
one to the last. -/
structure Counted (run : Run) : Prop where
  sound : run.table.Sound
  numbers : (numbers run.events).map (fun id => id.value.toInt) =
    (List.range run.table.lastId).map fun n : Nat => (n : Int) + 1

theorem counted_start : Counted Run.start := ⟨OrderTable.sound_empty, rfl⟩

theorem Counted.next {run : Run} (h : Counted run) (call : OrderCall) :
    Counted (run.next call) := by
  refine ⟨Run.next_sound h.sound call, ?_⟩
  rw [Run.next_events, Run.next_table, Memory.numbers, List.filterMap_append, List.map_append]
  rcases number?_on call run.table with ⟨-, hlt, hend, hlast⟩ | ⟨-, hnone, hlast⟩
  · rw [hlast, List.range_succ, List.map_append, ← h.numbers, hend]
    show _ ++ [run.table.nextId.value.toInt] = _
    rw [OrderTable.toInt_nextId hlt]
    rfl
  · rw [hlast, ← h.numbers, List.filterMap_cons_none hnone]
    exact List.append_nil _

theorem Counted.more {run : Run} (h : Counted run) (calls : List OrderCall) :
    Counted (run.more calls) :=
  Run.more_induction h fun _ call _ hr => hr.next call

theorem counted_of (calls : List OrderCall) : Counted (Run.of calls) := counted_start.more calls

/-- No number is given out twice. -/
theorem Counted.nodup {run : Run} (h : Counted run) : (Memory.numbers run.events).Nodup := by
  refine List.Nodup.of_map (fun id => id.value.toInt) ?_
  rw [h.numbers]
  refine List.nodup_range.map ?_
  intro a b hab
  have hsucc : (a : Int) + 1 = b + 1 := hab
  omega

/-- The table holds what the events tell, as long as no change is given up. -/
theorem find?_of (calls : List OrderCall)
    (hwhole : ∀ e ∈ (Run.of calls).events, e.call.isUpdate → e.ending ≠ .aborted)
    (owner : UserId) (id : OrderId) :
    (Run.of calls).table.find? owner id = entry owner id (Run.of calls).events := by
  induction calls using List.reverseRecOn generalizing owner id with
  | nil => exact OrderTable.find?_empty owner id
  | append_singleton calls call ih =>
      rw [Run.of_snoc, Run.next_events] at hwhole ⊢
      have hbefore : ∀ e ∈ (Run.of calls).events, e.call.isUpdate → e.ending ≠ .aborted :=
        fun e he => hwhole e (List.mem_append_left _ he)
      have hlast : call.isUpdate →
          (call.on orderStore (Run.of calls).table).ending ≠ .aborted :=
        hwhole ⟨call, _⟩ (List.mem_append_right _ (List.mem_singleton_self _))
      rw [Run.next_table, find?_on (counted_of calls).sound hlast, ih hbefore, entry_snoc]

/-- With fewer insertions than there are numbers, every insertion succeeds. -/
theorem inserted_of (calls : List OrderCall) (hcount : calls.countP OrderCall.isInsert ≤ maxId) :
    (Run.of calls).table.lastId = calls.countP OrderCall.isInsert ∧
      ∀ e ∈ (Run.of calls).events, e.call.isInsert → ∃ id, e.ending = .done (.number id) := by
  induction calls using List.reverseRecOn with
  | nil => exact ⟨rfl, by simp [Run.of, Run.more, Run.start]⟩
  | append_singleton calls call ih =>
      rw [List.countP_append] at hcount ⊢
      obtain ⟨hlast, hdone⟩ := ih (by omega)
      rw [Run.of_snoc, Run.next_table]
      have hevents : ∀ e ∈ ((Run.of calls).next call).events, e ∈ (Run.of calls).events ∨
          e = ⟨call, (call.on orderStore (Run.of calls).table).ending⟩ := by
        intro e he
        rw [Run.next_events] at he
        rcases List.mem_append.mp he with hold | hnew
        · exact Or.inl hold
        · exact Or.inr (List.mem_singleton.mp hnew)
      rcases number?_on call (Run.of calls).table with
        ⟨hins, hlt, hend, hnext⟩ | ⟨hfull, -, hnext⟩
      · rw [List.countP_singleton, if_pos hins]
        refine ⟨by rw [hnext, hlast], ?_⟩
        intro e he hi
        rcases hevents e he with hold | rfl
        · exact hdone e hold hi
        · exact ⟨(Run.of calls).table.nextId, hend⟩
      · have hnot : call.isInsert ≠ true := by
          intro hi
          rw [List.countP_singleton, if_pos hi] at hcount
          have := hfull hi
          omega
        rw [List.countP_singleton, if_neg hnot]
        refine ⟨hnext.trans hlast, ?_⟩
        intro e he hi
        rcases hevents e he with hold | rfl
        · exact hdone e hold hi
        · exact absurd hi hnot

/-! ### Answers from a book -/

/-- Every call of an owner is answered as if the table were this book, which holds the owner's
orders and nothing else. -/
structure Serves (table : OrderTable) (owner : UserId) (book : List Order) : Prop where
  list : (orderStore.listByOwner owner table).ending = .done book
  find : ∀ order ∈ book, (orderStore.findOne owner order.id table).ending = .done order
  /-- A change succeeds unless the time of the last change is the last there is. -/
  update : ∀ order ∈ book, order.updatedAt.nextMicrosecond? ≠ none → ∀ change,
    (orderStore.update owner order.id change table).ending = .done ()
  delete : ∀ order ∈ book, (orderStore.delete owner order.id table).ending = .done ()
  missing : ∀ id, (∀ order ∈ book, order.id ≠ id) →
    (orderStore.findOne owner id table).ending = .failed .notFound ∧
    (∀ change, (orderStore.update owner id change table).ending = .failed .notFound) ∧
    (orderStore.delete owner id table).ending = .failed .notFound

/-- A sound table serves each owner from the list of the rows that the owner finds. -/
theorem serves_ownedBy {table : OrderTable} (h : table.Sound) (owner : UserId) :
    Serves table owner (table.ownedBy owner) := by
  constructor
  · simp only [orderStore, bounded_immediately, OrderTable.listByOwner, Action.ending_done]
  · intro order horder
    have hf := h.mem_ownedBy_iff.mp horder
    simp only [orderStore, bounded_immediately, OrderTable.findOne_of_some hf,
      Action.ending_done]
  · intro order horder hnext change
    have hf := h.mem_ownedBy_iff.mp horder
    obtain ⟨time, htime⟩ := Option.ne_none_iff_exists'.mp hnext
    simp only [orderStore, bounded_immediately, OrderTable.update_of_some hf htime,
      Action.ending_done]
  · intro order horder
    have hf := h.mem_ownedBy_iff.mp horder
    simp only [orderStore, bounded_immediately, OrderTable.delete_of_some hf,
      Action.ending_done]
  · intro id hid
    have hf : table.find? owner id = none := by
      cases hf : table.find? owner id with
      | none => rfl
      | some order =>
          exact absurd (h.id_of_find? hf)
            (hid order (OrderTable.mem_ownedBy.mpr ⟨id, hf⟩))
    simp only [orderStore, bounded_immediately, OrderTable.findOne_of_none hf,
      OrderTable.update_of_none hf, OrderTable.delete_of_none hf, Action.ending_fail,
      implies_true, and_self]

/--
**Each owner has a private book.**  After any calls by any owners, fewer insertions
than 2³¹ among them and no change given up, every insertion has succeeded and each
owner is served from a book: the orders that stand in the history of the owner's own
calls, by number.  However many calls other owners then make, the owner is served
from the same book.
-/
theorem served_from_private_book (calls : List OrderCall)
    (hcount : calls.countP OrderCall.isInsert < 2147483648)
    (hwhole : ∀ e ∈ (Run.of calls).events, e.call.isUpdate → e.ending ≠ .aborted)
    (owner : UserId) :
    (∀ e ∈ (Run.of calls).events, e.call.isInsert → ∃ id, e.ending = .done (.number id)) ∧
    ∃ book : List Order,
      Serves (Run.of calls).table owner book ∧
      (book.Pairwise fun a b => a.id.value < b.id.value) ∧
      (∀ order, order ∈ book ↔ Stands owner (Run.of calls).events order) ∧
      ∀ others : List OrderCall, (∀ call ∈ others, call.owner ≠ owner) →
        Serves ((Run.of calls).more others).table owner book := by
  have hrun := counted_of calls
  refine ⟨(inserted_of calls (Nat.le_of_lt_succ hcount)).2, _, serves_ownedBy hrun.sound owner,
    hrun.sound.ownedBy_sorted owner, ?_, ?_⟩
  · intro order
    rw [hrun.sound.mem_ownedBy_iff, find?_of calls hwhole]
    exact ⟨fun h => (stands_of_entry h).2, entry_of_stands hrun.nodup⟩
  · intro others hothers
    obtain ⟨hsound, hview⟩ := Run.find?_more hrun.sound hothers
    rw [← OrderTable.ownedBy_congr hview]
    exact serves_ownedBy hsound owner

/-- Two owners call in turn; one of them asks for the other's order and removes its own. -/
def twoOwners : List OrderCall :=
  [.insert ⟨1⟩ ⟨.pending, .epoch, .epoch⟩, .insert ⟨2⟩ ⟨.paid, .epoch, .epoch⟩,
   .update ⟨1⟩ ⟨1⟩ ⟨some .shipped, .epoch⟩, .update ⟨2⟩ ⟨1⟩ ⟨some .cancelled, .epoch⟩,
   .delete ⟨2⟩ ⟨2⟩]

theorem twoOwners_served :
    twoOwners.countP OrderCall.isInsert < 2147483648 ∧
    (∀ e ∈ (Run.of twoOwners).events, e.call.isUpdate → e.ending ≠ .aborted) ∧
    ∃ book : List Order,
      Serves (Run.of twoOwners).table ⟨1⟩ book ∧
      (∀ order, order ∈ book ↔ Stands ⟨1⟩ (Run.of twoOwners).events order) ∧
      Serves ((Run.of twoOwners).more [.list ⟨2⟩, .delete ⟨2⟩ ⟨1⟩]).table ⟨1⟩ book := by
  have hcount : twoOwners.countP OrderCall.isInsert < 2147483648 := by decide
  have hwhole : ∀ e ∈ (Run.of twoOwners).events, e.call.isUpdate → e.ending ≠ .aborted := by
    decide
  obtain ⟨-, book, hserves, -, hbook, hothers⟩ :=
    served_from_private_book twoOwners hcount hwhole ⟨1⟩
  exact ⟨hcount, hwhole, book, hserves, hbook, hothers _ (by decide)⟩

end OrderDesk.Memory
