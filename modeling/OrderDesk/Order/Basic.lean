/-
Orders.
-/
import OrderDesk.Identifier
import OrderDesk.Order.Status
import OrderDesk.Time.Instant

namespace OrderDesk

/-- An order.  Its number, its owner and the time it was created never change. -/
structure Order where
  id : OrderId
  owner : UserId
  status : OrderStatus
  createdAt : Instant
  /-- When the order was last changed; every change makes this later. -/
  updatedAt : Instant
  deriving DecidableEq, Repr

/-- What is needed to store a new order. -/
structure NewOrder where
  status : OrderStatus
  createdAt : Instant
  updatedAt : Instant
  deriving DecidableEq, Repr

/-- A new order as it is stored. -/
def NewOrder.row (order : NewOrder) (id : OrderId) (owner : UserId) : Order :=
  { id := id
    owner := owner
    status := order.status
    createdAt := order.createdAt
    updatedAt := order.updatedAt }

/-- A change of an order. -/
structure OrderUpdate where
  /-- The new status; without one the status stays. -/
  status : Option OrderStatus
  /-- When the change was made, by the clock of whoever made it. -/
  touchedAt : Instant
  deriving DecidableEq, Repr

end OrderDesk
