/-
Numbers are given out once, and what is removed stays removed.

The table keeps the last number that was given out apart from its rows.  So the numbers
count up from one whatever has been removed in between, and a number that has been given
out and has no row any more is `Gone`: no call gives it out again, and without that no
call can put a row there.  A successful removal leaves its number gone, and nothing that
is called from then on, by anybody, shows an order with that number.
-/
import OrderDesk.Proofs.Store.Books
import OrderDesk.Proofs.Store.Rows

namespace OrderDesk.Memory

/-! ### What an event says about a number -/

/-- The event removes the order with this number, whoever called. -/
def Event.removes (id : OrderId) : Event → Bool
  | ⟨.delete _ i, .done _⟩ => i == id
  | _ => false

/-- The event shows that there is an order with this number: somebody found, changed or removed
it, or it is in somebody's list. -/
def Event.shows (id : OrderId) : Event → Bool
  | ⟨.find _ i, .done _⟩ | ⟨.update _ i _, .done _⟩ | ⟨.delete _ i, .done _⟩ => i == id
  | ⟨.list _, .done (.orders orders)⟩ => orders.any fun order => order.id == id
  | _ => false

theorem Event.removes_iff {id : OrderId} {e : Event} :
    e.removes id = true ↔ ∃ o r, e = ⟨.delete o id, .done r⟩ := by
  constructor
  · intro h
    unfold Event.removes at h
    split at h
    · next o i r =>
      obtain rfl := beq_iff_eq.mp h
      exact ⟨o, r, rfl⟩
    · cases h
  · rintro ⟨o, r, rfl⟩
    exact beq_self_eq_true id

theorem Event.shows_of_removes {id : OrderId} {e : Event} (h : e.removes id = true) :
    e.shows id = true := by
  obtain ⟨o, r, rfl⟩ := Event.removes_iff.mp h
  exact beq_self_eq_true id

/-- A call about another number shows nothing about this one. -/
theorem Event.shows_of_ne {id i : OrderId} (h : i ≠ id) (o : UserId)
    (x : Ending StoreError Reply) :
    Event.shows id ⟨.find o i, x⟩ = false ∧
      (∀ change, Event.shows id ⟨.update o i change, x⟩ = false) ∧
      Event.shows id ⟨.delete o i, x⟩ = false := by
  cases x <;> simp [Event.shows, h]

/-! ### Numbers that are gone -/

/-- The number has been given out, and there is no order with it any more. -/
structure Gone (table : OrderTable) (id : OrderId) : Prop where
  given : id.value.toInt ≤ table.lastId
  absent : table.rows[id]? = none

section Step

variable {table : OrderTable} {id : OrderId}

theorem lastId_le (call : OrderCall) (table : OrderTable) :
    table.lastId ≤ (call.on orderStore table).state.lastId := by
  rcases number?_on call table with ⟨-, -, -, hlast⟩ | ⟨-, -, hlast⟩
  · rw [hlast]
    exact Nat.le_succ _
  · exact Nat.le_of_eq hlast.symm

/-- A number that is gone stays so. -/
theorem Gone.on (h : Gone table id) (call : OrderCall) :
    Gone (call.on orderStore table).state id := by
  refine ⟨?_, absent_on h.absent h.given call⟩
  have hle := lastId_le call table
  have hgiven := h.given
  omega

/-- An order that is not there is not shown. -/
theorem shows_absent (hs : table.Sound) (h : table.rows[id]? = none) (call : OrderCall) :
    Event.shows id ⟨call, (call.on orderStore table).ending⟩ = false := by
  cases call with
  | insert o new => rfl
  | list o =>
      rw [(on_list _ _).1]
      show (table.ownedBy o).any _ = false
      rw [List.any_eq_false]
      intro order horder heq
      have hf := hs.mem_ownedBy_iff.mp horder
      rw [beq_iff_eq.mp heq, OrderTable.find?_of_absent h] at hf
      cases hf
  | find o i =>
      rw [(on_find _ _ _).1]
      by_cases hi : i = id
      · subst hi
        rw [OrderTable.findOne_of_none (OrderTable.find?_of_absent h o)]
        rfl
      · exact (Event.shows_of_ne hi o _).1
  | update o i change =>
      rw [(on_update _ _ _ _).1]
      by_cases hi : i = id
      · subst hi
        rw [OrderTable.update_of_none (OrderTable.find?_of_absent h o)]
        rfl
      · exact (Event.shows_of_ne hi o _).2.1 change
  | delete o i =>
      rw [(on_delete _ _ _).1]
      by_cases hi : i = id
      · subst hi
        rw [OrderTable.delete_of_none (OrderTable.find?_of_absent h o)]
        rfl
      · exact (Event.shows_of_ne hi o _).2.2

/-- What is removed is gone. -/
theorem gone_of_removes (hs : table.Sound) {call : OrderCall}
    (h : Event.removes id ⟨call, (call.on orderStore table).ending⟩ = true) :
    Gone (call.on orderStore table).state id := by
  cases hrow : table.rows[id]? with
  | none =>
      have hshows := shows_absent hs hrow call
      rw [Event.shows_of_removes h] at hshows
      cases hshows
  | some order =>
      refine ⟨?_, ?_⟩
      · have hgiven := (hs.given id order hrow).2
        have hle := lastId_le call table
        omega
      · have hfate := row_on hs hrow call
        generalize hstate : (call.on orderStore table).state.rows[id]? = row at hfate ⊢
        generalize hevent : (⟨call, (call.on orderStore table).ending⟩ : Event) = e at hfate h
        cases hfate with
        | kept _ hdelete =>
            obtain ⟨o, r, hremoval⟩ := Event.removes_iff.mp h
            exact absurd hremoval (hdelete o r)
        | changed => cases h
        | halved => cases h
        | removed => rfl

end Step

/-! ### Runs -/

/-- What every run keeps up about the numbers of removed orders. -/
structure Final (run : Run) : Prop where
  sound : run.table.Sound
  /-- The number of every order that was removed is gone. -/
  gone : ∀ e ∈ run.events, ∀ id, e.removes id = true → Gone run.table id
  /-- Nothing after a removal shows the order that was removed. -/
  unseen : ∀ id, run.events.Pairwise fun earlier later =>
    earlier.removes id = true → later.shows id = false

theorem final_start : Final Run.start :=
  ⟨OrderTable.sound_empty, by simp [Run.start], fun _ => List.Pairwise.nil⟩

theorem Final.next {run : Run} (h : Final run) (call : OrderCall) : Final (run.next call) := by
  refine ⟨Run.next_sound h.sound call, ?_, ?_⟩
  · intro e he id hremoves
    rw [Run.next_events, List.mem_append, List.mem_singleton] at he
    rcases he with hold | rfl
    · exact (h.gone e hold id hremoves).on call
    · exact gone_of_removes h.sound hremoves
  · intro id
    rw [Run.next_events, List.pairwise_append]
    refine ⟨h.unseen id, List.pairwise_singleton _ _, ?_⟩
    intro e he e' he' hremoves
    rw [List.mem_singleton.mp he']
    exact shows_absent h.sound (h.gone e he id hremoves).absent call

theorem final_of (calls : List OrderCall) : Final (Run.of calls) :=
  Run.more_induction final_start fun _ call _ h => h.next call

/-- What excludes itself from then on happens at most once. -/
theorem countP_le_one {α : Type} {p : α → Bool} {l : List α}
    (h : l.Pairwise fun a b => p a = true → p b = false) : l.countP p ≤ 1 := by
  induction l with
  | nil => exact Nat.zero_le _
  | cons a rest ih =>
      rw [List.pairwise_cons] at h
      by_cases ha : p a = true
      · have hnone : rest.countP p = 0 := by
          rw [List.countP_eq_zero]
          intro b hb
          rw [h.1 b hb ha]
          exact Bool.false_ne_true
        have honce : (a :: rest).countP p = 1 := by rw [List.countP_cons_of_pos ha, hnone]
        exact Nat.le_of_eq honce
      · rw [List.countP_cons_of_neg ha]
        exact ih h.2

theorem Final.removed_once {run : Run} (h : Final run) (id : OrderId) :
    run.events.countP (Event.removes id) ≤ 1 := by
  refine countP_le_one ((h.unseen id).imp ?_)
  intro e e' hunseen hremoves
  rw [← Bool.not_eq_true]
  intro hagain
  have hshows := Event.shows_of_removes hagain
  rw [hunseen hremoves] at hshows
  cases hshows

/-- Only insertions are answered with a number. -/
theorem not_number_of (calls : List OrderCall) :
    ∀ e ∈ (Run.of calls).events, e.call.isInsert = false → e.number? = none := by
  refine Run.more_induction (P := fun run =>
    ∀ e ∈ run.events, e.call.isInsert = false → e.number? = none) (fun _ he => nomatch he) ?_
  intro run call _ ih e he hcall
  rw [Run.next_events, List.mem_append, List.mem_singleton] at he
  rcases he with hold | rfl
  · exact ih e hold hcall
  · exact (number?_of_not_insert hcall run.table).1

/-- The numbers that were given out are what the insertions were answered with. -/
theorem answers_eq {events : List Event}
    (hdone : ∀ e ∈ events, e.call.isInsert → ∃ id, e.ending = .done (.number id))
    (hother : ∀ e ∈ events, e.call.isInsert = false → e.number? = none) :
    (events.filter fun e => e.call.isInsert).map Event.ending =
      (numbers events).map fun id => .done (.number id) := by
  induction events with
  | nil => rfl
  | cons e rest ih =>
      have hrest := ih (fun e' he' => hdone e' (List.mem_cons_of_mem _ he'))
        (fun e' he' => hother e' (List.mem_cons_of_mem _ he'))
      by_cases hins : e.call.isInsert = true
      · obtain ⟨id, hid⟩ := hdone e (List.mem_cons_self ..) hins
        have hnumber : e.number? = some id := by
          cases e
          simp only at hid
          rw [hid]
          rfl
        have hnumbers : numbers (e :: rest) = id :: numbers rest :=
          List.filterMap_cons_some hnumber
        rw [List.filter_cons_of_pos (p := fun e : Event => e.call.isInsert) hins, hnumbers,
          List.map_cons, List.map_cons, hrest, hid]
      · have hnumbers : numbers (e :: rest) = numbers rest :=
          List.filterMap_cons_none
            (hother e (List.mem_cons_self ..) (Bool.eq_false_iff.mpr hins))
        rw [List.filter_cons_of_neg (p := fun e : Event => e.call.isInsert) hins, hnumbers, hrest]

/--
**No number is given out twice, and a removal is final.**  After any calls by any owners,
at most as many insertions among them as there are numbers: every insertion has
succeeded, and they were given the numbers one, two, three and so on, in this order.
Every row lies under its own number, which is one of those.  Each order was removed at
most once, and nothing that was called later on, by anybody, has found, changed or
removed an order with that number, or has it in a list.
-/
theorem numbers_never_return (calls : List OrderCall)
    (hcount : calls.countP OrderCall.isInsert ≤ 2147483647) :
    (∃ ids : List OrderId,
      (((Run.of calls).events.filter fun e => e.call.isInsert).map Event.ending =
        ids.map fun id => .done (.number id)) ∧
      (ids.map fun id => id.value.toInt) =
        (List.range (calls.countP OrderCall.isInsert)).map (fun n : Nat => (n : Int) + 1) ∧
      ids.Pairwise fun a b => a.value < b.value) ∧
    (Run.of calls).table.lastId = calls.countP OrderCall.isInsert ∧
    (∀ (id : OrderId) (order : Order), (Run.of calls).table.rows[id]? = some order →
      order.id = id ∧ 1 ≤ id.value.toInt ∧ id.value.toInt ≤ (Run.of calls).table.lastId) ∧
    (∀ id, (Run.of calls).events.countP (Event.removes id) ≤ 1) ∧
    ∀ id, (Run.of calls).events.Pairwise fun earlier later =>
      earlier.removes id = true → later.shows id = false := by
  have hcounted := counted_of calls
  have hfinal := final_of calls
  obtain ⟨hlast, hdone⟩ := inserted_of calls hcount
  have hnumbers := hcounted.numbers
  rw [hlast] at hnumbers
  refine ⟨⟨numbers (Run.of calls).events, answers_eq hdone (not_number_of calls), hnumbers, ?_⟩,
    hlast, ?_, hfinal.removed_once, hfinal.unseen⟩
  · have hincreasing : ((numbers (Run.of calls).events).map fun id => id.value.toInt).Pairwise
        (· < ·) := by
      rw [hnumbers, List.pairwise_map]
      refine List.pairwise_lt_range.imp ?_
      intro a b hab
      omega
    rw [List.pairwise_map] at hincreasing
    exact hincreasing.imp fun hab => Int32.lt_iff_toInt_lt.mpr hab
  · intro id order hrow
    exact ⟨hfinal.sound.ownId id order hrow, hfinal.sound.given id order hrow⟩

/-- The second owner removes an order, creates another, and tries to remove the first again. -/
def secondThoughts : List OrderCall :=
  [.insert ⟨1⟩ ⟨.pending, .epoch, .epoch⟩, .insert ⟨2⟩ ⟨.paid, .epoch, .epoch⟩,
   .delete ⟨2⟩ ⟨2⟩, .insert ⟨2⟩ ⟨.pending, .epoch, .epoch⟩, .delete ⟨2⟩ ⟨2⟩, .list ⟨2⟩]

theorem secondThoughts_numbered :
    secondThoughts.countP OrderCall.isInsert ≤ 2147483647 ∧
    (∃ ids : List OrderId,
      (((Run.of secondThoughts).events.filter fun e => e.call.isInsert).map Event.ending =
        ids.map fun id => .done (.number id)) ∧
      (ids.map fun id => id.value.toInt) = [1, 2, 3]) ∧
    (Run.of secondThoughts).events.countP (Event.removes ⟨2⟩) ≤ 1 ∧
    (Run.of secondThoughts).events.Pairwise fun earlier later =>
      earlier.removes ⟨2⟩ = true → later.shows ⟨2⟩ = false := by
  have hcount : secondThoughts.countP OrderCall.isInsert ≤ 2147483647 := by decide
  obtain ⟨⟨ids, hanswers, hnumbers, -⟩, -, -, honce, hunseen⟩ :=
    numbers_never_return secondThoughts hcount
  exact ⟨hcount, ⟨ids, hanswers, hnumbers⟩, honce ⟨2⟩, hunseen ⟨2⟩⟩

end OrderDesk.Memory
