/-
Orders as rows.

An order is stored as a row whose times are counted in whole microseconds.  Not every time
survives this: what is smaller than a microsecond is dropped, a leap second becomes the second
after it, and the database does not reach as far back as instants do.  `Shared` says which times
do, and an order with such times is read from its row as it was.

On these times the order and the count of microseconds agree, so that what the database makes of
them, the greater of two and the next one, is what instants make of them.
-/
import Mathlib.Data.Int.Basic
import OrderDesk.Proofs.Postgres.Meaning
import OrderDesk.Proofs.Time.Instant

namespace OrderDesk.Postgres

/-! ### Times -/

/-- A time in whole microseconds that is outside of leap seconds and that the database can
store. -/
structure Shared (t : Instant) : Prop where
  whole : t.nanos % 1000 = 0
  notLeap : t.isLeap = false
  first : firstMicro ≤ microsOfInstant t

instance (t : Instant) : Decidable (Shared t) :=
  decidable_of_iff (t.nanos % 1000 = 0 ∧ t.isLeap = false ∧ firstMicro ≤ microsOfInstant t)
    ⟨fun ⟨hwhole, hleap, hfirst⟩ => ⟨hwhole, hleap, hfirst⟩,
      fun h => ⟨h.whole, h.notLeap, h.first⟩⟩

/-- Whole microseconds are counted without loss. -/
theorem micros_of_whole {t : Instant} (h : t.nanos % 1000 = 0) :
    microsOfInstant t = (t.seconds - epochSeconds) * 1000000 + t.nanos / 1000 := by
  have hnanos : (t.seconds - epochSeconds) * 1000000000 + (t.nanos : Int) =
      1000 * ((t.seconds - epochSeconds) * 1000000 + t.nanos / 1000) := by
    omega
  show Int.tdiv ((t.seconds - epochSeconds) * 1000000000 + (t.nanos : Int)) 1000 = _
  rw [hnanos, Int.mul_tdiv_cancel_left _ (by decide)]

/-- The count of microseconds is that of nanoseconds, from another beginning. -/
theorem total_of_whole {t : Instant} (h : t.nanos % 1000 = 0) :
    t.total = epochSeconds * 1000000000 + microsOfInstant t * 1000 := by
  rw [micros_of_whole h, Instant.total]
  omega

/-- What is shared can be stored, because instants end before the database does. -/
theorem Shared.timeCell {t : Instant} (h : Shared t) :
    timeCell (microsOfInstant t) = .ok (.time (microsOfInstant t)) := by
  have hmax := t.valid.2.1
  have hlt := Instant.nanos_lt h.notLeap
  have hend : microsOfInstant t < endMicro := by
    rw [micros_of_whole h.whole]
    unfold Instant.maxSecond at hmax
    unfold epochSeconds endMicro
    omega
  exact if_pos ⟨h.first, hend⟩

theorem Shared.cell {t : Instant} (h : Shared t) :
    (Statement.timeParameter t).cell = .ok (.time (microsOfInstant t)) := h.timeCell

theorem Shared.instantOfMicros {t : Instant} (h : Shared t) :
    instantOfMicros? (microsOfInstant t) = some t := by
  have hlt := Instant.nanos_lt h.notLeap
  have hwhole := h.whole
  have hseconds : epochSeconds + microsOfInstant t / 1000000 = t.seconds := by
    rw [micros_of_whole h.whole]
    omega
  have hnanos : (microsOfInstant t % 1000000 * 1000).toNat = t.nanos := by
    rw [micros_of_whole h.whole]
    omega
  rw [instantOfMicros?, hseconds, hnanos, Instant.ofParts?, dif_pos t.valid]

theorem micros_le_micros {a b : Instant} (ha : Shared a) (hb : Shared b) :
    microsOfInstant a ≤ microsOfInstant b ↔ a ≤ b := by
  rw [← Instant.total_le_total ha.notLeap hb.notLeap, total_of_whole ha.whole,
    total_of_whole hb.whole]
  omega

/-- The next microsecond is one more. -/
theorem Shared.next {t next : Instant} (h : Shared t) (hnext : t.nextMicrosecond? = some next) :
    Shared next ∧ microsOfInstant next = microsOfInstant t + 1 := by
  obtain ⟨hleap, htotal⟩ := Instant.total_nextMicrosecond h.notLeap hnext
  have hwhole : next.nanos % 1000 = 0 := by
    have ht := h.whole
    unfold Instant.total at htotal
    omega
  have hmicros : microsOfInstant next = microsOfInstant t + 1 := by
    rw [total_of_whole hwhole, total_of_whole h.whole] at htotal
    omega
  have hfirst := h.first
  exact ⟨⟨hwhole, hleap, by omega⟩, hmicros⟩

/-- The later of two times is the greater number. -/
theorem Shared.latest {a b : Instant} (ha : Shared a) (hb : Shared b) :
    Shared (a.latest b) ∧
      microsOfInstant (a.latest b) = max (microsOfInstant a) (microsOfInstant b) := by
  rw [Instant.latest_eq_max]
  by_cases h : a ≤ b
  · rw [max_eq_right h, max_eq_right ((micros_le_micros ha hb).mpr h)]
    exact ⟨hb, rfl⟩
  · have hba : b ≤ a := (not_le.mp h).le
    rw [max_eq_left hba, max_eq_left ((micros_le_micros hb ha).mpr hba)]
    exact ⟨ha, rfl⟩

/-! ### Orders -/

/-- An order as a row. -/
def rowOf (order : Order) : Row where
  id := order.id.value
  userId := order.owner.value
  status := order.status.text
  createdAt := microsOfInstant order.createdAt
  updatedAt := microsOfInstant order.updatedAt

/-- An order after a change, when this is the next microsecond after the last one. -/
def revised (order : Order) (change : OrderUpdate) (next : Instant) : Order :=
  { order with
    status := change.status.getD order.status
    updatedAt := change.touchedAt.latest next }

/-- The cells of a row, in the order in which they are asked for. -/
def Row.cells (row : Row) : List Cell := OrderColumn.all.map row.cell

/-- The row that has these cells. -/
theorem Row.ofCells_eq {row : Row} {cells : OrderColumn → Except Refusal Cell}
    (h : ∀ c, cells c = .ok (row.cell c)) : Row.ofCells cells = .ok row := by
  rw [funext h]
  rfl

/-- **An order with shared times is read from its row as it was.** -/
theorem readOrder_rowOf {order : Order} (hcreated : Shared order.createdAt)
    (hupdated : Shared order.updatedAt) : readOrder (rowOf order).cells = .ok order := by
  have hstatus : statusCodec.decode (.text order.status.text) = .ok order.status := by
    cases order.status <;> rfl
  have htime : ∀ {t : Instant}, Shared t → readTime (.time (microsOfInstant t)) = .ok t := by
    intro t ht
    rw [readTime, ht.instantOfMicros]
  simp only [readOrder, Row.cells, OrderColumn.all, List.map, readCell, List.getD, Row.cell, rowOf,
    List.getElem?_cons_zero, List.getElem?_cons_succ, Option.getD_some, hstatus, htime hcreated,
    htime hupdated]
  rfl

end OrderDesk.Postgres
