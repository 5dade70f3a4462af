/-
What the database makes of a call.

For each statement about orders there is what the database replies and what it holds afterwards,
given that it mirrors a table in memory: the numbers, rows and orders in the replies are those of
the table, and the new contents are those that the three moves of a mirror lead to.  A statement
that leads to a mirror is never refused, because what a table must not hold is in no mirror.
-/
import OrderDesk.Proofs.Postgres.Mirror

namespace OrderDesk.Postgres

open OrderDesk.Memory (OrderTable OrderCall)

/-! ### Calls as statements -/

/-- The statement that makes the call. -/
def statementOf : OrderCall → Statement
  | .insert owner new => .insertOrder owner new
  | .list owner => .listOrders owner
  | .find owner id => .findOrder owner id
  | .update owner id change => .updateOrder owner id change
  | .delete owner id => .deleteOrder owner id

/-- What the statement asks for. -/
def commandOf : OrderCall → Command
  | .insert _ _ => .insertOrder
  | .list _ => .listOrders
  | .find _ _ => .findOrder
  | .update _ _ _ => .updateOrder
  | .delete _ _ => .deleteOrder

theorem command?_statementOf (call : OrderCall) :
    (statementOf call).command? = some (commandOf call) := by
  cases call <;> rfl

/-- What the database replies to the call, and what it holds afterwards. -/
def Database.serve (db : Database) (call : OrderCall) : Reply × Database :=
  db.answer (statementOf call).parameters (commandOf call)

/-- The refusal when there are no more numbers. -/
def outOfNumbers : Refusal := ⟨"2200H", "reached maximum value of sequence"⟩

/-- The database replies to the call in this way, and mirrors this table afterwards. -/
structure Serves (db : Database) (call : OrderCall) (reply : Reply) (table : OrderTable) :
    Prop where
  reply : (db.serve call).1 = reply
  mirrors : Mirrors table (db.serve call).2
  users : (db.serve call).2.users = db.users

theorem Serves.of_eq {db db' : Database} {call : OrderCall} {reply : Reply} {table : OrderTable}
    (hserve : db.serve call = (reply, db')) (h : Mirrors table db')
    (husers : db'.users = db.users) : Serves db call reply table := by
  refine ⟨?_, ?_, ?_⟩ <;> rw [hserve]
  · exact h
  · exact husers

variable {table : OrderTable} {db : Database} {id : OrderId} {order : Order} {owner : UserId}

/-- When there is a next number, a row is put in if the rules allow it. -/
theorem Database.insert_of_row {values : OrderColumn → Option Cell} {row : Row}
    (hlt : db.lastId < Database.maxNumber)
    (hrow : ∀ c, (values c).getD (if c = .id then .int (Int32.ofNat (db.lastId + 1)) else .null) =
      row.cell c) :
    db.insert values =
      Database.keep { db with lastId := db.lastId + 1 } (db.orders ++ [row])
        (.rows [[.int row.id]]) := by
  have hcells := Row.ofCells_eq fun c => congrArg Except.ok (hrow c)
  rw [Database.insert, if_pos hlt]
  simp only [hcells]
  rfl

namespace Mirrors

/-- What mirrors a table breaks no rule. -/
theorem keep (h : Mirrors table db) (reply : Reply) (before : List Row) :
    Database.keep { db with orders := before } db.orders reply = (reply, db) := by
  have howner : db.orders.all fun row => db.users.contains row.userId := by
    rw [List.all_eq_true]
    intro row hrow
    obtain ⟨order, horder, rfl⟩ := (h.rows row).mp hrow
    exact List.contains_iff_mem.mpr (h.fit _ _ horder).owner
  have hchecked : db.orders.all fun row =>
      Database.words.contains row.status && decide (row.createdAt ≤ row.updatedAt) := by
    rw [List.all_eq_true]
    intro row hrow
    obtain ⟨order, horder, rfl⟩ := (h.rows row).mp hrow
    have hfit := h.fit _ _ horder
    rw [Bool.and_eq_true, decide_eq_true_iff]
    refine ⟨?_, (micros_le_micros hfit.created hfit.updated).mpr hfit.ordered⟩
    show Database.words.contains order.status.text = true
    cases order.status <;> rfl
  rw [Database.keep, Database.violation?, if_neg (not_not_intro h.distinct),
    if_neg (not_not_intro howner), if_neg (not_not_intro hchecked)]

/-! ### Looking -/

theorem serves_list (h : Mirrors table db) (owner : UserId) :
    Serves db (.list owner)
      (.rows ((table.ownedBy owner).map fun order => (rowOf order).cells)) table := by
  refine .of_eq ?_ h rfl
  show Database.run db [.int owner.value] (.select OrderColumn.all ownOrders true) = _
  rw [Database.run, if_pos rfl, h.sorted_hits owner, List.map_map]
  rfl

theorem serves_find_of_missing (h : Mirrors table db) (hfind : table.find? owner id = none) :
    Serves db (.find owner id) (.rows []) table := by
  refine .of_eq ?_ h rfl
  show Database.run db [.int id.value, .int owner.value]
    (.select OrderColumn.all oneOrder false) = _
  rw [Database.run, if_neg Bool.false_ne_true, h.hits_of_missing hfind]
  rfl

theorem serves_find_of_found (h : Mirrors table db) (hfind : table.find? owner id = some order) :
    Serves db (.find owner id) (.rows [(rowOf order).cells]) table := by
  refine .of_eq ?_ h rfl
  show Database.run db [.int id.value, .int owner.value]
    (.select OrderColumn.all oneOrder false) = _
  rw [Database.run, if_neg Bool.false_ne_true, h.hits_of_found hfind]
  rfl

/-! ### Removing -/

theorem serves_delete_of_missing (h : Mirrors table db) (hfind : table.find? owner id = none) :
    Serves db (.delete owner id) (.affected 0) table := by
  refine .of_eq ?_ h rfl
  show Database.run db [.int id.value, .int owner.value] (.delete oneOrder) = _
  rw [Database.run, h.hits_of_missing hfind, h.others_of_missing hfind]
  rfl

theorem serves_delete_of_found (h : Mirrors table db)
    (hfind : table.find? owner id = some order) :
    Serves db (.delete owner id) (.affected 1) (table.remove id) := by
  refine .of_eq ?_ (h.remove id) rfl
  show Database.run db [.int id.value, .int owner.value] (.delete oneOrder) = _
  rw [Database.run, h.hits_of_found hfind, h.others_of_found hfind]
  rfl

/-! ### Changing -/

/-- The values of the parameters of a change. -/
def changeValues (owner : UserId) (id : OrderId) (change : OrderUpdate) : List Cell :=
  [.int id.value, .int owner.value, (change.status.map fun s => .text s.text).getD .null,
    .time (microsOfInstant change.touchedAt)]

theorem serve_update {change : OrderUpdate} (htouched : Shared change.touchedAt) :
    db.serve (.update owner id change) =
      db.run (changeValues owner id change) .updateOrder := by
  have hstatus : ((change.status.map statusCodec.encode).getD .null).cell =
      .ok ((change.status.map fun s => .text s.text).getD .null) := by
    cases change.status <;> rfl
  have hcells : (statementOf (.update owner id change)).parameters.mapM Parameter.cell =
      .ok (changeValues owner id change) := by
    simp only [statementOf, Statement.parameters, List.mapM_cons, hstatus, htouched.cell]
    rfl
  rw [Database.serve, Database.answer, hcells]
  rfl

/-- What a change sets in the row of an order is what it sets in the order. -/
theorem set_rowOf {change : OrderUpdate} {next : Instant} (htouched : Shared change.touchedAt)
    (hupdated : Shared order.updatedAt) (hnext : order.updatedAt.nextMicrosecond? = some next) :
    (rowOf order).set (changeValues owner id change)
        [(.status, .coalesce (.parameter 3) (.column .status)),
         (.updatedAt, .greatest (.parameter 4) (.nextMicrosecond (.column .updatedAt)))] =
      .ok (rowOf (revised order change next)) := by
  obtain ⟨hshared, hmicros⟩ := hupdated.next hnext
  have hstatus : Expr.eval (changeValues owner id change) (rowOf order)
      (.coalesce (.parameter 3) (.column .status)) =
        .ok (.text (change.status.getD order.status).text) := by
    cases hs : change.status <;> simp only [changeValues, hs] <;> rfl
  have hlater : Expr.eval (changeValues owner id change) (rowOf order)
      (.greatest (.parameter 4) (.nextMicrosecond (.column .updatedAt))) =
        .ok (.time (microsOfInstant (change.touchedAt.latest next))) := by
    show (timeCell (microsOfInstant order.updatedAt + 1)).bind
      (greatestOf (.time (microsOfInstant change.touchedAt))) = _
    rw [← hmicros, hshared.timeCell, (htouched.latest hshared).2]
    rfl
  refine Row.ofCells_eq ?_
  intro c
  cases c with
  | id => rfl
  | userId => rfl
  | status => exact hstatus
  | createdAt => rfl
  | updatedAt => exact hlater

theorem serves_update_of_missing (h : Mirrors table db) {change : OrderUpdate}
    (htouched : Shared change.touchedAt) (hfind : table.find? owner id = none) :
    Serves db (.update owner id change) (.affected 0) table := by
  refine .of_eq ?_ h rfl
  -- Nothing is changed, but the table is checked all the same.
  rw [serve_update htouched, Command.updateOrder, Database.run, changeValues,
    h.hits_of_missing hfind, h.others_of_missing hfind]
  show db.keep (db.orders ++ []) (.affected 0) = _
  rw [List.append_nil]
  exact h.keep _ db.orders

theorem serves_update_of_found (h : Mirrors table db) {change : OrderUpdate} {next : Instant}
    (htouched : Shared change.touchedAt) (hfind : table.find? owner id = some order)
    (hnext : order.updatedAt.nextMicrosecond? = some next) :
    Serves db (.update owner id change) (.affected 1)
      (table.put id (revised order change next)) := by
  obtain ⟨hrow, -⟩ := OrderTable.find?_eq_some.mp hfind
  obtain rfl := h.sound.ownId id order hrow
  have hfit := h.fit _ _ hrow
  have hold : table.rows[(revised order change next).id]? = some order := hrow
  have hmirror := h.rewrite hold (hfit.revised htouched hnext)
  refine .of_eq ?_ hmirror rfl
  have hhits : db.hits (changeValues owner order.id change) oneOrder = [rowOf order] :=
    h.hits_of_found hfind
  have hothers : db.others (changeValues owner order.id change) oneOrder =
      db.orders.filter fun row => row.id ≠ order.id.value := h.others_of_found hfind
  rw [serve_update htouched, Command.updateOrder, Database.run, hhits, hothers, List.mapM_cons,
    set_rowOf htouched hfit.updated hnext]
  exact hmirror.keep _ db.orders

/-! ### Storing -/

theorem serve_insert {new : NewOrder} (hcreated : Shared new.createdAt)
    (hupdated : Shared new.updatedAt) :
    db.serve (.insert owner new) =
      db.run [.int owner.value, .text new.status.text, .time (microsOfInstant new.createdAt),
        .time (microsOfInstant new.updatedAt)] .insertOrder := by
  have hcells : (statementOf (.insert owner new)).parameters.mapM Parameter.cell =
      .ok [.int owner.value, .text new.status.text, .time (microsOfInstant new.createdAt),
        .time (microsOfInstant new.updatedAt)] := by
    simp only [statementOf, Statement.parameters, List.mapM_cons, hcreated.cell, hupdated.cell]
    rfl
  rw [Database.serve, Database.answer, hcells]
  rfl

/-- A new order gets the next number and lies behind the others. -/
theorem serves_insert (h : Mirrors table db) {new : NewOrder} (hlt : table.lastId < Memory.maxId)
    (hfit : Fit db.users (new.row table.nextId owner)) :
    Serves db (.insert owner new) (.rows [[.int table.nextId.value]]) (table.add owner new) := by
  have hdrawn : Mirrors { table with lastId := table.lastId + 1 }
      { db with lastId := db.lastId + 1 } := by
    rw [h.lastId]
    exact h.count (Nat.le_succ _) hlt
  have hgiven : 1 ≤ table.nextId.value.toInt ∧
      table.nextId.value.toInt ≤ (table.lastId + 1 : Nat) := by
    rw [OrderTable.toInt_nextId hlt]
    omega
  have habsent : table.rows[(new.row table.nextId owner).id]? = none :=
    h.sound.absent_nextId hlt
  have hmirror := hdrawn.append habsent hgiven hfit
  have hdraw : db.lastId < Database.maxNumber := h.lastId.symm ▸ hlt
  refine .of_eq ?_ hmirror rfl
  rw [serve_insert hfit.created hfit.updated, Command.insertOrder, Database.run]
  refine (Database.insert_of_row hdraw ?_).trans (hmirror.keep _ db.orders)
  intro c
  cases c with
  | id => exact congrArg (fun n => Cell.int (Int32.ofNat (n + 1))) h.lastId
  | userId => rfl
  | status => rfl
  | createdAt => rfl
  | updatedAt => rfl

/-- When the numbers have run out, a new order is refused. -/
theorem serves_insert_of_full (h : Mirrors table db) {new : NewOrder}
    (hfull : ¬table.lastId < Memory.maxId) (hcreated : Shared new.createdAt)
    (hupdated : Shared new.updatedAt) :
    Serves db (.insert owner new) outOfNumbers.reply table := by
  have hdraw : ¬table.lastId < Database.maxNumber := hfull
  refine .of_eq ?_ h rfl
  rw [serve_insert hcreated hupdated, Command.insertOrder, Database.run, Database.insert,
    h.lastId, if_neg hdraw]
  rfl

end Mirrors

end OrderDesk.Postgres
