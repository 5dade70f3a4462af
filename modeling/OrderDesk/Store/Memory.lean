/-
Tables in memory.

Users are kept in the order in which they registered, and each gets the number after
that of the one before.  Orders are kept in a map from their numbers, together with the last
number that was given out, so that the number of a removed order is never given out again.
-/
import OrderDesk.Store.Basic
import OrderDesk.Store.Deadline
import Std.Data.ExtTreeMap

namespace OrderDesk.Memory

/-- The numbers that are given out end here. -/
def maxId : Nat := 2147483647

/-! ### Users -/

/-- The users, in the order in which they registered. -/
structure UserTable where
  users : List User
  deriving DecidableEq

namespace UserTable

/-- Nobody has registered yet. -/
def empty : UserTable := ⟨[]⟩

/-- The name or the address of a new user is taken. -/
def isTaken (table : UserTable) (user : NewUser) : Bool :=
  table.users.any fun u => u.username == user.username || u.email == user.email

/-- The number of the user who registered last, or zero. -/
def lastId (table : UserTable) : Int :=
  match table.users.getLast? with
  | some user => user.id.value.toInt
  | none => 0

/-- Add a user. -/
def create (now : Instant) (user : NewUser) : Action UserTable StoreError UserId := fun table =>
  if table.isTaken user then
    Action.fail (.conflict "username or email already exists") table
  else if table.lastId < maxId then
    let id : UserId := ⟨Int32.ofInt (table.lastId + 1)⟩
    let row : User :=
      { id := id
        username := user.username
        email := user.email
        passwordHash := user.passwordHash
        createdAt := now }
    Action.done id ⟨table.users ++ [row]⟩
  else Action.abort table

/-- Look a user up. -/
def findByUsername (name : Username) : Action UserTable StoreError User := fun table =>
  match table.users.find? fun u => u.username == name with
  | some user => Action.done user table
  | none => Action.fail .notFound table

end UserTable

/-- The store of users in memory, at the time `now`. -/
def userStore (now : Instant) : CredentialStore UserTable where
  create user :=
    bounded .usual Operation.createUser (immediately (UserTable.create now user))
  findByUsername name :=
    bounded .usual Operation.findByUsername (immediately (UserTable.findByUsername name))

/-! ### Orders -/

/-- The orders by number, and the last number given out. -/
structure OrderTable where
  rows : Std.ExtTreeMap OrderId Order
  lastId : Nat
  deriving DecidableEq, Repr

namespace OrderTable

/-- There are no orders yet. -/
def empty : OrderTable := ⟨∅, 0⟩

/-- The orders of an owner. -/
def ownedBy (table : OrderTable) (owner : UserId) : List Order :=
  (table.rows.toList.map Prod.snd).filter fun order => order.owner == owner

/-- The order with this number, if it belongs to the owner. -/
def find? (table : OrderTable) (owner : UserId) (id : OrderId) : Option Order :=
  table.rows[id]?.filter fun order => order.owner == owner

/-- Put an order under a number, in place of the one that is there. -/
def put (table : OrderTable) (id : OrderId) (order : Order) : OrderTable :=
  { table with rows := table.rows.insert id order }

/-- Take out the order with this number. -/
def remove (table : OrderTable) (id : OrderId) : OrderTable :=
  { table with rows := table.rows.erase id }

/-- The number of the next order. -/
def nextId (table : OrderTable) : OrderId := ⟨Int32.ofNat (table.lastId + 1)⟩

/-- Put a new order under the next number. -/
def add (table : OrderTable) (owner : UserId) (order : NewOrder) : OrderTable :=
  { table.put table.nextId (order.row table.nextId owner) with lastId := table.lastId + 1 }

/-- Add an order. -/
def insert (owner : UserId) (order : NewOrder) : Action OrderTable StoreError OrderId :=
  fun table =>
    if table.lastId < maxId then Action.done table.nextId (table.add owner order)
    else Action.abort table

/-- List the orders of an owner. -/
def listByOwner (owner : UserId) : Action OrderTable StoreError (List Order) := fun table =>
  Action.done (table.ownedBy owner) table

/-- Look an order up. -/
def findOne (owner : UserId) (id : OrderId) : Action OrderTable StoreError Order := fun table =>
  match table.find? owner id with
  | some order => Action.done order table
  | none => Action.fail .notFound table

/-- Change an order.  The status is changed first.  Then the time of the change is set, to the
time when it was made or to the next microsecond after the last change, whichever is later; when
there is no such microsecond, the change is given up half done. -/
def update (owner : UserId) (id : OrderId) (change : OrderUpdate) :
    Action OrderTable StoreError Unit := fun table =>
  match table.find? owner id with
  | none => Action.fail .notFound table
  | some order =>
    let order := { order with status := change.status.getD order.status }
    match order.updatedAt.nextMicrosecond? with
    | none => Action.abort (table.put id order)
    | some next =>
      Action.done () (table.put id { order with updatedAt := change.touchedAt.latest next })

/-- Remove an order. -/
def delete (owner : UserId) (id : OrderId) : Action OrderTable StoreError Unit := fun table =>
  match table.find? owner id with
  | none => Action.fail .notFound table
  | some _ => Action.done () (table.remove id)

end OrderTable

/-- The store of orders in memory. -/
def orderStore : OrderStore OrderTable where
  insert owner order :=
    bounded .usual Operation.insertOrder (immediately (OrderTable.insert owner order))
  listByOwner owner :=
    bounded .usual Operation.listOrders (immediately (OrderTable.listByOwner owner))
  findOne owner id :=
    bounded .usual Operation.findOrder (immediately (OrderTable.findOne owner id))
  update owner id change :=
    bounded .usual Operation.updateOrder (immediately (OrderTable.update owner id change))
  delete owner id :=
    bounded .usual Operation.deleteOrder (immediately (OrderTable.delete owner id))

end OrderDesk.Memory
