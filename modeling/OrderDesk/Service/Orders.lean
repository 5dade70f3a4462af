/-
Orders as a service.

The service stamps what it does with the time, passes on for whom it does it, and
writes down what has been done.
-/
import OrderDesk.Store.Basic

namespace OrderDesk

/-- An operation on orders that failed. -/
structure OrderError where
  operation : String
  cause : StoreError
  deriving DecidableEq, Repr

namespace OrderError

/-- The text that reports the error. -/
def message (e : OrderError) : String := e.operation ++ ": " ++ e.cause.message

/-- The order is not there, or belongs to somebody else. -/
def isNotFound (e : OrderError) : Bool := e.cause == .notFound

/-- The texts of the error and of what lies beneath it, beginning with the innermost. -/
def chain (e : OrderError) : List String := e.cause.chain ++ [e.message]

end OrderError

/-- What the service of orders works with. -/
structure Orders (σ : Type) where
  store : OrderStore σ

namespace Orders

variable {σ : Type}

/-- The entry for a new order. -/
def createdEntry (user : UserId) (id : OrderId) (status : OrderStatus) : LogEntry :=
  ⟨.info, "order created",
    [("user_id", user.text), ("order_id", id.text), ("status", status.text)]⟩

/-- The entry for a changed order. -/
def updatedEntry (user : UserId) (id : OrderId) : LogEntry :=
  ⟨.info, "order updated", [("user_id", user.text), ("order_id", id.text)]⟩

/-- The entry for a removed order. -/
def deletedEntry (user : UserId) (id : OrderId) : LogEntry :=
  ⟨.info, "order deleted", [("user_id", user.text), ("order_id", id.text)]⟩

/-- Create an order. -/
def create (service : Orders σ) (now : Instant) (user : UserId) (status : OrderStatus) :
    Action σ OrderError OrderId := do
  let order : NewOrder := { status := status, createdAt := now, updatedAt := now }
  let id ← (service.store.insert user order).mapError (OrderError.mk "create order")
  Action.note (createdEntry user id status)
  return id

/-- List the orders of a user. -/
def list (service : Orders σ) (user : UserId) : Action σ OrderError (List Order) :=
  (service.store.listByOwner user).mapError (OrderError.mk "list orders")

/-- Fetch one order of a user. -/
def get (service : Orders σ) (user : UserId) (id : OrderId) : Action σ OrderError Order :=
  (service.store.findOne user id).mapError (OrderError.mk "get order")

/-- Change an order of a user. -/
def update (service : Orders σ) (now : Instant) (user : UserId) (id : OrderId)
    (status : Option OrderStatus) : Action σ OrderError Unit := do
  let change : OrderUpdate := { status := status, touchedAt := now }
  (service.store.update user id change).mapError (OrderError.mk "update order")
  Action.note (updatedEntry user id)

/-- Remove an order of a user. -/
def delete (service : Orders σ) (user : UserId) (id : OrderId) : Action σ OrderError Unit := do
  (service.store.delete user id).mapError (OrderError.mk "delete order")
  Action.note (deletedEntry user id)

end Orders

end OrderDesk
