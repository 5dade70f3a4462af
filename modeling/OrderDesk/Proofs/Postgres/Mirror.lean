/-
A table in memory and its mirror in the database.

The rows of the database are those of the orders in memory, in any order, and both have given
out the same numbers.  A row that is put behind the others, a row that is taken out and a number
that is drawn keep it so, and what the statements do is made of these three.

What a statement finds is known from this.  A condition on one order and its owner is met by the
row of that order alone, and by none if the owner has no such order; and the rows of an owner, in
the order of their numbers, are those of the orders that memory lists.
-/
import Mathlib.Data.List.Nodup
import OrderDesk.Proofs.Postgres.Rows
import OrderDesk.Proofs.Store.Rows

namespace OrderDesk.Postgres

open OrderDesk.Memory (OrderTable)

/-- The database accepts the order, and gives it back as it is. -/
structure Fit (users : List Int32) (order : Order) : Prop where
  owner : order.owner.value ∈ users
  created : Shared order.createdAt
  updated : Shared order.updatedAt
  ordered : order.createdAt ≤ order.updatedAt

theorem Fit.revised {users : List Int32} {order : Order} {change : OrderUpdate} {next : Instant}
    (h : Fit users order) (htouched : Shared change.touchedAt)
    (hnext : order.updatedAt.nextMicrosecond? = some next) :
    Fit users (revised order change next) where
  owner := h.owner
  created := h.created
  updated := (htouched.latest (h.updated.next hnext).1).1
  ordered := by
    have hlater : order.createdAt ≤ next := h.ordered.trans (Instant.lt_nextMicrosecond hnext).le
    refine hlater.trans ?_
    show next ≤ change.touchedAt.latest next
    rw [Instant.latest_eq_max]
    exact le_max_right _ _

/-- The database holds what the table holds. -/
structure Mirrors (table : OrderTable) (db : Database) : Prop where
  sound : table.Sound
  lastId : db.lastId = table.lastId
  distinct : (db.orders.map Row.id).Nodup
  rows : ∀ row, row ∈ db.orders ↔
    ∃ order : Order, table.rows[order.id]? = some order ∧ rowOf order = row
  fit : ∀ (id : OrderId) (order : Order), table.rows[id]? = some order → Fit db.users order

variable {table : OrderTable} {db : Database} {id : OrderId} {order : Order} {owner : UserId}

theorem id_eq_of_rowOf (h : (rowOf order).id = id.value) : order.id = id := by
  cases id
  exact congrArg OrderId.mk h

namespace Mirrors

theorem empty (users : List Int32) : Mirrors .empty (.empty users) where
  sound := OrderTable.sound_empty
  lastId := rfl
  distinct := List.nodup_nil
  rows := by
    intro row
    simp [Database.empty, OrderTable.empty]
  fit := by
    intro id order h
    simp [OrderTable.empty] at h

theorem rowOf_mem (h : Mirrors table db) (hrow : table.rows[id]? = some order) :
    rowOf order ∈ db.orders := by
  obtain rfl := h.sound.ownId id order hrow
  exact (h.rows _).mpr ⟨order, hrow, rfl⟩

/-- A row with the number of an order is the row of that order. -/
theorem eq_rowOf (h : Mirrors table db) (hrow : table.rows[id]? = some order) {row : Row}
    (hmem : row ∈ db.orders) (hid : row.id = id.value) : row = rowOf order := by
  obtain ⟨found, hfound, rfl⟩ := (h.rows row).mp hmem
  rw [id_eq_of_rowOf hid] at hfound
  rw [Option.some.inj (hfound.symm.trans hrow)]

/-- The rows of the database are those of the orders in memory. -/
theorem perm (h : Mirrors table db) : db.orders.Perm (table.all.map rowOf) := by
  have hnodup : (table.all.map rowOf).Nodup := by
    refine List.Nodup.of_map (fun row : Row => OrderId.mk row.id) ?_
    rw [List.map_map]
    exact h.sound.nodup_all
  rw [List.perm_ext_iff_of_nodup h.distinct.of_map hnodup]
  intro row
  rw [h.rows row, List.mem_map]
  constructor
  · rintro ⟨order, hrow, rfl⟩
    exact ⟨order, OrderTable.mem_all.mpr ⟨_, hrow⟩, rfl⟩
  · rintro ⟨order, hmem, rfl⟩
    obtain ⟨id, hrow⟩ := OrderTable.mem_all.mp hmem
    obtain rfl := h.sound.ownId id order hrow
    exact ⟨order, hrow, rfl⟩

/-- Every order in memory is read from its row. -/
theorem read_rowOf (h : Mirrors table db) (hmem : order ∈ table.all) :
    readOrder (rowOf order).cells = .ok order := by
  obtain ⟨id, hrow⟩ := OrderTable.mem_all.mp hmem
  have hfit := h.fit id order hrow
  exact readOrder_rowOf hfit.created hfit.updated

/-- The database holds the orders in memory, and no others. -/
theorem held (h : Mirrors table db) :
    (db.orders.map fun row => readOrder row.cells).Perm (table.all.map .ok) := by
  refine (h.perm.map _).trans (List.Perm.of_eq ?_)
  rw [List.map_map]
  exact List.map_congr_left fun _ => h.read_rowOf

/-! ### Three moves -/

/-- A number is drawn. -/
theorem count (h : Mirrors table db) {n : Nat} (hn : table.lastId ≤ n)
    (hmax : n ≤ Memory.maxId) :
    Mirrors { table with lastId := n } { db with lastId := n } where
  sound := h.sound.count hn hmax
  lastId := rfl
  distinct := h.distinct
  rows := h.rows
  fit := h.fit

/-- The row of an order is taken out. -/
theorem remove (h : Mirrors table db) (id : OrderId) :
    Mirrors (table.remove id)
      { db with orders := db.orders.filter fun row => row.id ≠ id.value } where
  sound := h.sound.remove id
  lastId := h.lastId
  distinct := h.distinct.sublist (List.Sublist.map _ List.filter_sublist)
  rows := by
    intro row
    rw [List.mem_filter, h.rows row]
    constructor
    · rintro ⟨⟨order, hrow, rfl⟩, hne⟩
      refine ⟨order, ?_, rfl⟩
      rw [OrderTable.getElem?_remove, if_neg, hrow]
      rintro rfl
      exact of_decide_eq_true hne rfl
    · rintro ⟨order, hrow, rfl⟩
      rw [OrderTable.getElem?_remove] at hrow
      split at hrow
      · cases hrow
      · next hne =>
        refine ⟨⟨order, hrow, rfl⟩, decide_eq_true ?_⟩
        intro hid
        exact hne (id_eq_of_rowOf hid).symm
  fit := by
    intro i order hrow
    rw [OrderTable.getElem?_remove] at hrow
    split at hrow
    · cases hrow
    · exact h.fit i order hrow

/-- The row of an order whose number is free is put behind the others. -/
theorem append (h : Mirrors table db) (habsent : table.rows[order.id]? = none)
    (hgiven : 1 ≤ order.id.value.toInt ∧ order.id.value.toInt ≤ table.lastId)
    (hfit : Fit db.users order) :
    Mirrors (table.put order.id order) { db with orders := db.orders ++ [rowOf order] } where
  sound := h.sound.put rfl hgiven
  lastId := h.lastId
  distinct := by
    rw [List.map_append, List.nodup_append]
    refine ⟨h.distinct, List.nodup_singleton _, ?_⟩
    rintro _ hmem _ hnew rfl
    obtain ⟨row, hrow, hid⟩ := List.mem_map.mp hmem
    obtain ⟨found, hfound, rfl⟩ := (h.rows row).mp hrow
    rw [id_eq_of_rowOf (hid.trans (List.mem_singleton.mp hnew))] at hfound
    cases habsent.symm.trans hfound
  rows := by
    intro row
    rw [List.mem_append, List.mem_singleton, h.rows row]
    constructor
    · rintro (⟨found, hfound, rfl⟩ | rfl)
      · refine ⟨found, ?_, rfl⟩
        rw [OrderTable.getElem?_put, if_neg, hfound]
        intro hid
        rw [← hid, habsent] at hfound
        cases hfound
      · exact ⟨order, by rw [OrderTable.getElem?_put, if_pos rfl], rfl⟩
    · rintro ⟨found, hfound, rfl⟩
      rw [OrderTable.getElem?_put] at hfound
      split at hfound
      · cases hfound
        exact .inr rfl
      · exact .inl ⟨found, hfound, rfl⟩
  fit := by
    intro i found hfound
    rw [OrderTable.getElem?_put] at hfound
    split at hfound
    · cases hfound
      exact hfit
    · exact h.fit i found hfound

/-- The row of an order is taken out, and one of the same number is put behind the others. -/
theorem rewrite (h : Mirrors table db) {old : Order} (hrow : table.rows[order.id]? = some old)
    (hfit : Fit db.users order) :
    Mirrors (table.put order.id order)
      { db with orders := (db.orders.filter fun row => row.id ≠ order.id.value) ++
          [rowOf order] } := by
  have habsent : (table.remove order.id).rows[order.id]? = none := by
    rw [OrderTable.getElem?_remove, if_pos rfl]
  have hmirror := (h.remove order.id).append habsent (h.sound.given _ _ hrow) hfit
  rwa [OrderTable.put_remove] at hmirror

end Mirrors

/-! ### What is found -/

/-- A condition on one order and its owner. -/
theorem meets_oneOrder (row : Row) (id : OrderId) (owner : UserId) (rest : List Cell) :
    row.meets (.int id.value :: .int owner.value :: rest) oneOrder =
      decide (row.id = id.value ∧ row.userId = owner.value) := by
  simp [Row.meets, oneOrder, valueAt, Row.cell, beq_eq_decide]

/-- A condition on the owner. -/
theorem meets_ownOrders (row : Row) (owner : UserId) :
    row.meets [.int owner.value] ownOrders = decide (row.userId = owner.value) := by
  simp [Row.meets, ownOrders, valueAt, Row.cell, beq_eq_decide]

theorem owner_eq_of_rowOf (h : (rowOf order).userId = owner.value) : order.owner = owner := by
  cases owner
  exact congrArg UserId.mk h

namespace Mirrors

variable {rest : List Cell}

/-- An order that its owner does not have meets no condition. -/
theorem meets_of_missing (h : Mirrors table db) (hfind : table.find? owner id = none) {row : Row}
    (hrow : row ∈ db.orders) :
    row.meets (.int id.value :: .int owner.value :: rest) oneOrder = false := by
  rw [meets_oneOrder, decide_eq_false_iff_not]
  rintro ⟨hid, howner⟩
  obtain ⟨order, horder, rfl⟩ := (h.rows row).mp hrow
  have hsome : table.find? owner id = some order :=
    OrderTable.find?_eq_some.mpr ⟨id_eq_of_rowOf hid ▸ horder, owner_eq_of_rowOf howner⟩
  cases hfind.symm.trans hsome

theorem hits_of_missing (h : Mirrors table db) (hfind : table.find? owner id = none) :
    db.hits (.int id.value :: .int owner.value :: rest) oneOrder = [] := by
  rw [Database.hits, List.filter_eq_nil_iff]
  intro row hrow
  rw [h.meets_of_missing hfind hrow]
  exact Bool.false_ne_true

theorem others_of_missing (h : Mirrors table db) (hfind : table.find? owner id = none) :
    db.others (.int id.value :: .int owner.value :: rest) oneOrder = db.orders := by
  rw [Database.others, List.filter_eq_self]
  intro row hrow
  rw [h.meets_of_missing hfind hrow]
  rfl

/-- The condition on an order and its owner is met where the number is that of the order. -/
theorem meets_of_found (h : Mirrors table db) (hfind : table.find? owner id = some order)
    {row : Row} (hrow : row ∈ db.orders) :
    row.meets (.int id.value :: .int owner.value :: rest) oneOrder =
      decide (row.id = id.value) := by
  rw [meets_oneOrder]
  obtain ⟨horder, rfl⟩ := OrderTable.find?_eq_some.mp hfind
  refine decide_eq_decide.mpr ⟨And.left, ?_⟩
  intro hid
  refine ⟨hid, ?_⟩
  rw [h.eq_rowOf horder hrow hid]
  rfl

theorem hits_of_found (h : Mirrors table db) (hfind : table.find? owner id = some order) :
    db.hits (.int id.value :: .int owner.value :: rest) oneOrder = [rowOf order] := by
  obtain ⟨horder, -⟩ := OrderTable.find?_eq_some.mp hfind
  have hnodup := h.distinct.of_map
  rw [Database.hits, ← List.perm_singleton,
    List.perm_ext_iff_of_nodup (hnodup.filter _) (List.nodup_singleton _)]
  intro row
  rw [List.mem_filter, List.mem_singleton]
  constructor
  · rintro ⟨hrow, hmeets⟩
    rw [h.meets_of_found hfind hrow] at hmeets
    exact h.eq_rowOf horder hrow (of_decide_eq_true hmeets)
  · rintro rfl
    refine ⟨h.rowOf_mem horder, ?_⟩
    rw [h.meets_of_found hfind (h.rowOf_mem horder), h.sound.ownId id order horder |>.symm]
    exact decide_eq_true rfl

theorem others_of_found (h : Mirrors table db) (hfind : table.find? owner id = some order) :
    db.others (.int id.value :: .int owner.value :: rest) oneOrder =
      db.orders.filter fun row => row.id ≠ id.value := by
  rw [Database.others]
  refine List.filter_congr ?_
  intro row hrow
  rw [h.meets_of_found hfind hrow, ← decide_not]

/-- The rows of an owner are those of the orders that memory lists. -/
theorem hits_perm (h : Mirrors table db) (owner : UserId) :
    (db.hits [.int owner.value] ownOrders).Perm ((table.ownedBy owner).map rowOf) := by
  have hmeets : ((fun row => row.meets [.int owner.value] ownOrders) ∘ rowOf) =
      fun order : Order => order.owner == owner := by
    funext order
    rw [Function.comp_apply, meets_ownOrders, beq_eq_decide]
    exact decide_eq_decide.mpr ⟨owner_eq_of_rowOf, fun h => congrArg UserId.value h⟩
  rw [Database.hits, OrderTable.ownedBy_eq_filter, ← hmeets, ← List.filter_map]
  exact h.perm.filter _

/-- In the order of their numbers they are the list. -/
theorem sorted_hits (h : Mirrors table db) (owner : UserId) :
    (db.hits [.int owner.value] ownOrders).mergeSort (fun a b => a.id ≤ b.id) =
      (table.ownedBy owner).map rowOf := by
  have hperm := (List.mergeSort_perm (db.hits [.int owner.value] ownOrders)
    fun a b => a.id ≤ b.id).trans (h.hits_perm owner)
  have hsorted : ((db.hits [.int owner.value] ownOrders).mergeSort
      fun a b => a.id ≤ b.id).Pairwise fun a b => decide (a.id ≤ b.id) := by
    refine List.pairwise_mergeSort ?_ ?_ _
    · intro a b c hab hbc
      exact decide_eq_true (Int32.le_trans (of_decide_eq_true hab) (of_decide_eq_true hbc))
    · intro a b
      rw [← Bool.decide_or]
      exact decide_eq_true (Int32.le_total a.id b.id)
  have hlisted : ((table.ownedBy owner).map rowOf).Pairwise fun a b => decide (a.id ≤ b.id) := by
    rw [List.pairwise_map]
    exact (h.sound.ownedBy_sorted owner).imp fun hlt => decide_eq_true (Int32.le_of_lt hlt)
  -- Rows of one number may differ in general, but not those of orders in one table.
  refine hperm.eq_of_pairwise ?_ hsorted hlisted
  intro a b ha hb hab hba
  obtain ⟨x, hx, rfl⟩ := List.mem_map.mp (hperm.subset ha)
  obtain ⟨y, hy, rfl⟩ := List.mem_map.mp hb
  have hid : x.id = y.id :=
    id_eq_of_rowOf (Int32.le_antisymm (of_decide_eq_true hab) (of_decide_eq_true hba))
  have hfind := h.sound.mem_ownedBy_iff.mp hx
  rw [hid, h.sound.mem_ownedBy_iff.mp hy] at hfind
  rw [Option.some.inj hfind]

end Mirrors

end OrderDesk.Postgres
