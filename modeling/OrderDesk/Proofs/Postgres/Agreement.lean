/-
Memory and the database keep one contract.

Two stores of orders were written apart: one changes a table in memory, the other sends statements.
Here both are run on the same calls, from nothing, and compared after each of them, in what they
return and in the orders they hold.

The times of a run have to be times of both.  The database drops what is smaller than a
microsecond, has no leap seconds and begins later; memory ends earlier, and a change whose order
was last changed in the last microsecond of memory finds no time to set.  `Suited` asks for this
call by call, and that a new order is one the database accepts.  Nothing is asked about the number
of orders: when the numbers have run out, neither store takes another one.

The proof has one step for each outcome of a call in memory, in which the database replies what
memory returns and mirrors the table again.
-/
import OrderDesk.Proofs.Postgres.Replies
import OrderDesk.Proofs.Store.Outcomes

namespace OrderDesk.Postgres

open OrderDesk.Memory (OrderTable OrderCall Outcome Event)

/-! ### What comes back -/

/-- What a caller is told when the database replies so. -/
def received : OrderCall → Reply → Except StoreError Memory.Reply
  | .insert _ _, reply =>
    (ofRows .database (readFirst orderIdCodec.decode) reply).map .number
  | .list _, reply => (ofRows .database (List.mapM readOrder) reply).map .orders
  | .find _ _, reply => (ofRows .database (readOptional readOrder) reply).map .order
  | .update _ _ _, reply | .delete _ _, reply => (ofAffected reply).map fun _ => .nothing

section Call

variable {policy : QueryPolicy} {connection : Connection Database}

/-- What is asked of a faithful connection is answered by the database. -/
theorem ask_of_faithful {α : Type} (h : Faithful policy connection) (db : Database)
    (call : OrderCall) (operation : String) (read : Reply → Except StoreError α)
    (f : α → Memory.Reply) :
    ((f <$> ask connection policy operation (statementOf call) read) db).ending =
        .ofExcept ((read (db.serve call).1).map f) ∧
      ((f <$> ask connection policy operation (statementOf call) read) db).state =
        (db.serve call).2 := by
  have hcommand := command?_statementOf call
  obtain ⟨elapsed, hle, hanswer⟩ :=
    h _ _ hcommand (Statement.text_of_command? hcommand) db
  obtain ⟨hending, hstate⟩ :
      (ask connection policy operation (statementOf call) read db).ending =
          (Action.ofExcept (read (db.serve call).1) (db.serve call).2).ending ∧
        (ask connection policy operation (statementOf call) read db).state =
          (Action.ofExcept (read (db.serve call).1) (db.serve call).2).state := by
    refine Action.bounded_in_time ?_ hle operation
    simp only [hanswer]
    rfl
  rw [Action.ending_map, Action.state_map, hending, hstate, Action.ending_ofExcept,
    Action.state_ofExcept, Ending.map_ofExcept]
  exact ⟨rfl, rfl⟩

/-- A call to the store in the database. -/
theorem on_of_faithful (h : Faithful policy connection) (db : Database) (call : OrderCall) :
    (call.on (orderStore connection policy) db).ending =
        .ofExcept (received call (db.serve call).1) ∧
      (call.on (orderStore connection policy) db).state = (db.serve call).2 := by
  cases call with
  | insert owner new =>
      exact ask_of_faithful h db (.insert owner new) Operation.insertOrder
        (ofRows .database (readFirst orderIdCodec.decode)) .number
  | list owner =>
      exact ask_of_faithful h db (.list owner) Operation.listOrders
        (ofRows .database (List.mapM readOrder)) .orders
  | find owner id =>
      exact ask_of_faithful h db (.find owner id) Operation.findOrder
        (ofRows .database (readOptional readOrder)) .order
  | update owner id change =>
      exact ask_of_faithful h db (.update owner id change) Operation.updateOrder ofAffected
        fun _ => .nothing
  | delete owner id =>
      exact ask_of_faithful h db (.delete owner id) Operation.deleteOrder ofAffected
        fun _ => .nothing

end Call

/-- Rows that can all be read are read together. -/
theorem mapM_readOrder {orders : List Order}
    (h : ∀ order ∈ orders, readOrder (rowOf order).cells = .ok order) :
    (orders.map fun order => (rowOf order).cells).mapM readOrder = .ok orders := by
  induction orders with
  | nil => rfl
  | cons order rest ih =>
      rw [List.map_cons, List.mapM_cons, h order (List.mem_cons_self ..),
        ih fun o ho => h o (List.mem_cons_of_mem _ ho)]
      rfl

/-! ### One call -/

/-- The call brings no time and comes to none that only one of the stores can hold: a change may
come to the next microsecond after the last one.  A new order has an owner who is there, and has
not been changed before it was created. -/
def Suited (users : List Int32) (table : OrderTable) : OrderCall → Prop
  | .insert owner new =>
    owner.value ∈ users ∧ Shared new.createdAt ∧ Shared new.updatedAt ∧
      new.createdAt ≤ new.updatedAt
  | .update owner id change =>
    Shared change.touchedAt ∧
      ∀ order ∈ table.find? owner id, order.updatedAt.nextMicrosecond?.isSome
  | .list _ | .find _ _ | .delete _ _ => True

instance (users : List Int32) (table : OrderTable) :
    (call : OrderCall) → Decidable (Suited users table call)
  | .insert _ _ => inferInstanceAs (Decidable (_ ∧ _ ∧ _ ∧ _))
  | .update _ _ _ => inferInstanceAs (Decidable (_ ∧ _))
  | .list _ | .find _ _ | .delete _ _ => inferInstanceAs (Decidable True)

/-- The two stores end a call in the same way.  When the numbers have run out, memory gives a
new order up, and the database refuses it. -/
def SameEnding (call : OrderCall) (lastId : Nat) (m p : Ending StoreError Memory.Reply) : Prop :=
  m = p ∨
    call.isInsert ∧ lastId = Memory.maxId ∧ m = .aborted ∧
      p = .failed (.database (.refused outOfNumbers.code outOfNumbers.message))

/-- **Whatever a call comes to in memory, it comes to in the database.** -/
theorem serves_outcome {table table' : OrderTable} {db : Database} {call : OrderCall}
    {ending : Ending StoreError Memory.Reply} (h : Mirrors table db)
    (hsuited : Suited db.users table call) (houtcome : Outcome table call ending table') :
    ∃ reply, Serves db call reply table' ∧
      SameEnding call table'.lastId ending (.ofExcept (received call reply)) := by
  cases houtcome with
  | inserted owner new hlt =>
      obtain ⟨howner, hcreated, hupdated, hordered⟩ := hsuited
      exact ⟨_, h.serves_insert hlt ⟨howner, hcreated, hupdated, hordered⟩, .inl rfl⟩
  | full owner new hfull =>
      obtain ⟨-, hcreated, hupdated, -⟩ := hsuited
      have hlast : table.lastId = Memory.maxId :=
        Nat.le_antisymm h.sound.bounded (Nat.le_of_not_lt hfull)
      exact ⟨_, h.serves_insert_of_full hfull hcreated hupdated, .inr ⟨rfl, hlast, rfl, rfl⟩⟩
  | listed owner =>
      have hread : ∀ order ∈ table.ownedBy owner, readOrder (rowOf order).cells = .ok order :=
        fun order hmem => h.read_rowOf (List.mem_filter.mp hmem).1
      refine ⟨_, h.serves_list owner, .inl ?_⟩
      show Ending.done _ = .ofExcept ((List.mapM readOrder _).map Memory.Reply.orders)
      rw [mapM_readOrder hread]
      rfl
  | found hfind =>
      have hread := h.read_rowOf (OrderTable.mem_all.mpr ⟨_, (OrderTable.find?_eq_some.mp hfind).1⟩)
      refine ⟨_, h.serves_find_of_found hfind, .inl ?_⟩
      show Ending.done _ = .ofExcept ((readOrder _).map Memory.Reply.order)
      rw [hread]
      rfl
  | changed change hfind hnext =>
      exact ⟨_, h.serves_update_of_found hsuited.1 hfind hnext, .inl rfl⟩
  | halved change hfind hnext =>
      -- The database would go on to a time that memory does not have.
      have hsome := hsuited.2 _ hfind
      rw [hnext] at hsome
      cases hsome
  | removed hfind => exact ⟨_, h.serves_delete_of_found hfind, .inl rfl⟩
  | missing hid hfind =>
      cases call with
      | insert owner new => cases hid
      | list owner => cases hid
      | find owner id =>
          cases hid
          exact ⟨_, h.serves_find_of_missing hfind, .inl rfl⟩
      | update owner id change =>
          cases hid
          exact ⟨_, h.serves_update_of_missing hsuited.1 hfind, .inl rfl⟩
      | delete owner id =>
          cases hid
          exact ⟨_, h.serves_delete_of_missing hfind, .inl rfl⟩

/-! ### Runs -/

/-- Each call of a run on a store, how it ended, and what the store held then. -/
def history {σ : Type} (store : OrderStore σ) (s : σ) : List OrderCall → List (Event × σ)
  | [] => []
  | call :: rest =>
    let step := call.on store s
    (⟨call, step.ending⟩, step.state) :: history store step.state rest

/-- Every call of a run is suited to what memory holds when it is made. -/
def AllSuited (users : List Int32) (table : OrderTable) : List OrderCall → Prop
  | [] => True
  | call :: rest =>
    Suited users table call ∧ AllSuited users (call.on Memory.orderStore table).state rest

instance decidableAllSuited (users : List Int32) (table : OrderTable) :
    (calls : List OrderCall) → Decidable (AllSuited users table calls)
  | [] => inferInstanceAs (Decidable True)
  | call :: rest =>
    have := decidableAllSuited users (call.on Memory.orderStore table).state rest
    inferInstanceAs (Decidable (_ ∧ _))

/-- After a call, memory and the database have returned the same and hold the same orders. -/
structure Agree (m : Event × OrderTable) (p : Event × Database) : Prop where
  call : m.1.call = p.1.call
  ending : SameEnding m.1.call m.2.lastId m.1.ending p.1.ending
  rows : (p.2.orders.map fun row => readOrder row.cells).Perm (m.2.all.map .ok)

section Run

variable {policy : QueryPolicy} {connection : Connection Database}

/-- From a mirror on, the stores agree. -/
theorem agree_from (hway : Faithful policy connection) {calls : List OrderCall}
    {table : OrderTable} {db : Database} (h : Mirrors table db)
    (hsuited : AllSuited db.users table calls) :
    List.Forall₂ Agree (history Memory.orderStore table calls)
      (history (orderStore connection policy) db calls) := by
  induction calls generalizing table db with
  | nil => exact .nil
  | cons call rest ih =>
      obtain ⟨hcall, hrest⟩ := hsuited
      obtain ⟨reply, hserves, hending⟩ :=
        serves_outcome h hcall (Memory.outcome table call)
      obtain ⟨hanswer, hstate⟩ := on_of_faithful hway db call
      have hmirrors := hserves.mirrors
      rw [← hstate] at hmirrors
      rw [← hserves.reply, ← hanswer] at hending
      refine .cons ⟨rfl, hending, hmirrors.held⟩ (ih hmirrors ?_)
      rw [hstate, hserves.users]
      exact hrest

/--
**Memory and the database keep one contract.**  The statements are carried out, as their texts
say, on a table that has no rows yet, and memory starts out empty.  Then each call of a run that
is suited to both stores returns the same from both, and after each call both hold the same
orders.  When the numbers have run out, neither store takes a new order.
-/
theorem stores_agree (hway : Faithful policy connection) {users : List Int32}
    {calls : List OrderCall} (hsuited : AllSuited users .empty calls) :
    List.Forall₂ Agree (history Memory.orderStore .empty calls)
      (history (orderStore connection policy) (.empty users) calls) :=
  agree_from hway (.empty users) hsuited

end Run

/-- A database that answers at once. -/
def prompt : Connection Database := fun statement db =>
  match statement.command? with
  | some command =>
    let (reply, after) := db.answer statement.parameters command
    (reply, some .zero, after)
  | none => (.lost, none, db)

theorem faithful_prompt (policy : QueryPolicy) : Faithful policy prompt := by
  intro statement command hcommand _ db
  refine ⟨.zero, Nat.zero_le _, ?_⟩
  rw [prompt, hcommand]

/-- Two owners order.  One of them changes an order by a clock that stands still, and the other
can neither change nor remove it. -/
def ordersOfTwo : List OrderCall :=
  [.insert ⟨7⟩ ⟨.pending, .epoch, .epoch⟩, .insert ⟨8⟩ ⟨.paid, .epoch, .epoch⟩,
   .update ⟨7⟩ ⟨1⟩ ⟨none, .epoch⟩, .update ⟨7⟩ ⟨1⟩ ⟨some .shipped, .epoch⟩,
   .update ⟨8⟩ ⟨1⟩ ⟨some .cancelled, .epoch⟩, .delete ⟨8⟩ ⟨1⟩, .delete ⟨8⟩ ⟨2⟩,
   .insert ⟨7⟩ ⟨.confirmed, .epoch, .epoch⟩, .list ⟨7⟩, .find ⟨7⟩ ⟨1⟩]

theorem ordersOfTwo_agree :
    Faithful .usual prompt ∧ AllSuited [7, 8] .empty ordersOfTwo ∧
      List.Forall₂ Agree (history Memory.orderStore .empty ordersOfTwo)
        (history (orderStore prompt .usual) (.empty [7, 8]) ordersOfTwo) := by
  have hsuited : AllSuited [7, 8] .empty ordersOfTwo := by decide +kernel
  exact ⟨faithful_prompt .usual, hsuited, stores_agree (faithful_prompt .usual) hsuited⟩

end OrderDesk.Postgres
