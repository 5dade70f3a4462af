/-
Times of change move forward.

Between two looks at the same row lie calls of all kinds.  What they make of the row is
said by the changes that went through in between: the number, the owner and the time of
creation are as they were, and the time of change has been touched at the time of each of
those changes, one after another.  Everything else about times of change is then arithmetic
of touches, which knows nothing of tables.
-/
import OrderDesk.Proofs.Store.Numbers
import OrderDesk.Proofs.Time.Instant

namespace OrderDesk.Memory

/-- The time of the change of this order that went through with an event, whoever called. -/
def Event.touch? (id : OrderId) : Event → Option Instant
  | ⟨.update _ i change, .done _⟩ => if i = id then some change.touchedAt else none
  | _ => none

/-- The times of the changes of an order that went through, earliest first. -/
def touches (id : OrderId) (events : List Event) : List Instant :=
  events.filterMap (Event.touch? id)

/-- What calls have made of an order that is still there. -/
structure Continues (id : OrderId) (order : Order) (made : List Event) (order' : Order) : Prop where
  id_eq : order'.id = order.id
  owner_eq : order'.owner = order.owner
  createdAt_eq : order'.createdAt = order.createdAt
  /-- The time of change was touched with every change that went through. -/
  touched : (touches id made).foldlM Instant.touch? order.updatedAt = some order'.updatedAt

section

variable {id : OrderId} {a b c order : Order}

theorem Continues.refl (id : OrderId) (order : Order) : Continues id order [] order :=
  ⟨rfl, rfl, rfl, rfl⟩

theorem Continues.trans {xs ys : List Event} (h : Continues id a xs b) (h' : Continues id b ys c) :
    Continues id a (xs ++ ys) c := by
  refine ⟨h'.id_eq.trans h.id_eq, h'.owner_eq.trans h.owner_eq,
    h'.createdAt_eq.trans h.createdAt_eq, ?_⟩
  rw [touches, List.filterMap_append, List.foldlM_append]
  show (touches id xs).foldlM _ _ >>= _ = _
  rw [h.touched]
  exact h'.touched

/-- Only a change that went through touches an order. -/
theorem eq_of_touch? {e : Event} {t : Instant} (h : e.touch? id = some t) :
    ∃ o change r, e = ⟨.update o id change, .done r⟩ := by
  unfold Event.touch? at h
  split at h
  · next o i change r =>
    by_cases hi : i = id
    · exact ⟨o, change, r, by rw [hi]⟩
    · rw [if_neg hi] at h
      cases h
  · cases h

/-- One call continues the order, if it leaves it there. -/
theorem RowFate.continues {e : Event} {order' : Order} (h : RowFate id order e (some order')) :
    Continues id order [e] order' := by
  cases h with
  | kept hupdate _ =>
      refine ⟨rfl, rfl, rfl, ?_⟩
      have hnone : e.touch? id = none := by
        rw [Option.eq_none_iff_forall_ne_some]
        intro t ht
        obtain ⟨o, change, r, he⟩ := eq_of_touch? ht
        exact hupdate o change r he
      rw [touches, List.filterMap_cons_none hnone]
      rfl
  | changed change hnext =>
      refine ⟨rfl, rfl, rfl, ?_⟩
      have hsome : Event.touch? id ⟨.update order.owner id change, .done .nothing⟩ =
          some change.touchedAt := if_pos rfl
      rw [touches, List.filterMap_cons_some hsome, List.filterMap_nil]
      simp [Instant.touch?, hnext]
  | halved change => exact ⟨rfl, rfl, rfl, rfl⟩

/-- Whatever is called, an order that is still there afterwards has continued. -/
theorem continues_of {calls : List OrderCall} (h : (Run.of calls).table.rows[id]? = some order)
    (later : List OrderCall) :
    id.value.toInt ≤ (Run.of (calls ++ later)).table.lastId ∧
    ∃ made, (Run.of (calls ++ later)).events = (Run.of calls).events ++ made ∧
      ∀ order', (Run.of (calls ++ later)).table.rows[id]? = some order' →
        Continues id order made order' := by
  induction later using List.reverseRecOn with
  | nil =>
      rw [List.append_nil]
      refine ⟨((final_of calls).sound.given id order h).2, [], (List.append_nil _).symm, ?_⟩
      intro order' h'
      obtain rfl := Option.some.inj (h.symm.trans h')
      exact Continues.refl id order
  | append_singleton later call ih =>
      obtain ⟨hgiven, made, hevents, hcontinues⟩ := ih
      have hsound := (final_of (calls ++ later)).sound
      rw [← List.append_assoc, Run.of_snoc, Run.next_events, Run.next_table, hevents]
      have hle := lastId_le call (Run.of (calls ++ later)).table
      refine ⟨by omega, made ++ [_], List.append_assoc .., ?_⟩
      intro order'' h''
      cases hrow : (Run.of (calls ++ later)).table.rows[id]? with
      | none =>
          rw [absent_on hrow hgiven call] at h''
          cases h''
      | some order' =>
          have hfate := row_on hsound hrow call
          rw [h''] at hfate
          exact (hcontinues order' hrow).trans hfate.continues

/-! ### One call -/

/-- What is true of the row of an order after one more event. -/
structure MovesForward (id : OrderId) (order : Order) (e : Event) (row : Option Order) :
    Prop where
  /-- A change that goes through makes the time of change later, and not earlier than the time
  at which the change was made. -/
  changed : ∀ o change r, e = ⟨.update o id change, .done r⟩ →
    ∃ order', row = some order' ∧ order.updatedAt < order'.updatedAt ∧
      change.touchedAt ≤ order'.updatedAt
  /-- Nothing else touches the time of change. -/
  untouched : (∀ o change r, e ≠ ⟨.update o id change, .done r⟩) →
    ∀ order', row = some order' → order'.updatedAt = order.updatedAt
  same : ∀ order', row = some order' →
    order'.id = order.id ∧ order'.owner = order.owner ∧ order'.createdAt = order.createdAt

theorem RowFate.movesForward {e : Event} {row : Option Order} (h : RowFate id order e row) :
    MovesForward id order e row := by
  have hsame : ∀ order', row = some order' →
      order'.id = order.id ∧ order'.owner = order.owner ∧ order'.createdAt = order.createdAt := by
    rintro order' rfl
    exact ⟨h.continues.id_eq, h.continues.owner_eq, h.continues.createdAt_eq⟩
  refine ⟨?_, ?_, hsame⟩
  · rintro o change r rfl
    cases h with
    | kept hupdate _ => exact absurd rfl (hupdate o change r)
    | changed _ hnext =>
        refine ⟨_, rfl, ?_⟩
        exact Instant.lt_touch (by rw [Instant.touch?, hnext, Option.map_some])
  · intro hother order' hrow
    cases h with
    | kept =>
        obtain rfl := Option.some.inj hrow
        rfl
    | changed change _ => exact absurd rfl (hother _ change _)
    | halved =>
        obtain rfl := Option.some.inj hrow
        rfl
    | removed => cases hrow

end

end OrderDesk.Memory
