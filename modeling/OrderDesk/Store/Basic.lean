/-
What the services expect of the stores.

There are two stores, one for users and one for orders.  The services know them only
through these records, so the same services work with tables in memory, with a
database, and with stores that fail.  Everything that is done to an order names its
owner, and an order of somebody else is treated as one that is not there.
-/
import OrderDesk.Account.User
import OrderDesk.Action
import OrderDesk.Order.Basic
import OrderDesk.Store.Error

namespace OrderDesk

/-- Keeps users. -/
structure CredentialStore (σ : Type) where
  /-- Store a new user.  It is a conflict when the name or the address is taken. -/
  create : NewUser → Action σ StoreError UserId
  /-- The user with exactly this name. -/
  findByUsername : Username → Action σ StoreError User

/-- Keeps orders. -/
structure OrderStore (σ : Type) where
  /-- Store a new order. -/
  insert : UserId → NewOrder → Action σ StoreError OrderId
  /-- All orders of an owner, by number. -/
  listByOwner : UserId → Action σ StoreError (List Order)
  /-- One order, if it belongs to the owner. -/
  findOne : UserId → OrderId → Action σ StoreError Order
  /-- Change an order, if it belongs to the owner. -/
  update : UserId → OrderId → OrderUpdate → Action σ StoreError Unit
  /-- Remove an order, if it belongs to the owner. -/
  delete : UserId → OrderId → Action σ StoreError Unit

/-! ### The names of the operations -/

namespace Operation

def createUser : String := "users.create"
def findByUsername : String := "users.find_by_username"
def insertOrder : String := "orders.insert"
def listOrders : String := "orders.list_by_owner"
def findOrder : String := "orders.find_one"
def updateOrder : String := "orders.update"
def deleteOrder : String := "orders.delete"

end Operation

/-! ### Stores on parts of a larger state -/

/-- A store of users that is kept in a part of a larger state. -/
def CredentialStore.onPart {σ τ : Type} (get : τ → σ) (set : σ → τ → τ)
    (store : CredentialStore σ) : CredentialStore τ where
  create user := (store.create user).onPart get set
  findByUsername name := (store.findByUsername name).onPart get set

/-- A store of orders that is kept in a part of a larger state. -/
def OrderStore.onPart {σ τ : Type} (get : τ → σ) (set : σ → τ → τ)
    (store : OrderStore σ) : OrderStore τ where
  insert owner order := (store.insert owner order).onPart get set
  listByOwner owner := (store.listByOwner owner).onPart get set
  findOne owner id := (store.findOne owner id).onPart get set
  update owner id change := (store.update owner id change).onPart get set
  delete owner id := (store.delete owner id).onPart get set

/-! ### Stores that fail -/

/-- The errors that the operations of a store of users always report. -/
structure CredentialFaults where
  create : Option StoreError := none
  findByUsername : Option StoreError := none
  deriving DecidableEq, Repr

/-- The errors that the operations of a store of orders always report. -/
structure OrderFaults where
  insert : Option StoreError := none
  listByOwner : Option StoreError := none
  findOne : Option StoreError := none
  update : Option StoreError := none
  delete : Option StoreError := none
  deriving DecidableEq, Repr

/-- An action in whose place an error may be reported. -/
def Action.orFault {σ ε α : Type} (fault : Option ε) (x : Action σ ε α) : Action σ ε α :=
  match fault with
  | some e => Action.fail e
  | none => x

/-- A store of users some of whose operations always fail. -/
def CredentialStore.withFaults {σ : Type} (faults : CredentialFaults)
    (store : CredentialStore σ) : CredentialStore σ where
  create user := (store.create user).orFault faults.create
  findByUsername name := (store.findByUsername name).orFault faults.findByUsername

/-- A store of orders some of whose operations always fail. -/
def OrderStore.withFaults {σ : Type} (faults : OrderFaults) (store : OrderStore σ) :
    OrderStore σ where
  insert owner order := (store.insert owner order).orFault faults.insert
  listByOwner owner := (store.listByOwner owner).orFault faults.listByOwner
  findOne owner id := (store.findOne owner id).orFault faults.findOne
  update owner id change := (store.update owner id change).orFault faults.update
  delete owner id := (store.delete owner id).orFault faults.delete

end OrderDesk
