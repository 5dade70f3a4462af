/-
The status of an order.

There are six statuses with a nominal order from pending to cancelled, but an order
may go from any of them to any other.
-/
import OrderDesk.Text.Quoted

namespace OrderDesk

/-- Where an order stands. -/
inductive OrderStatus where
  | pending
  | confirmed
  | paid
  | shipped
  | delivered
  | cancelled
  deriving DecidableEq, Repr

namespace OrderStatus

/-- Every status, in the nominal order of an order's life. -/
def all : List OrderStatus := [.pending, .confirmed, .paid, .shipped, .delivered, .cancelled]

/-- The word for a status. -/
def text : OrderStatus → String
  | .pending => "pending"
  | .confirmed => "confirmed"
  | .paid => "paid"
  | .shipped => "shipped"
  | .delivered => "delivered"
  | .cancelled => "cancelled"

/-- The status of a new order when none is given. -/
def initial : OrderStatus := .pending

/-- The status a word names, case and all. -/
def ofText? (s : String) : Option OrderStatus := all.find? fun status => status.text = s

/-- The report about a text that is no status. -/
def unknownMessage (s : String) : String :=
  "unknown order status " ++ Text.quoted s ++
    " (expected one of: pending, confirmed, paid, shipped, delivered, cancelled)"

end OrderStatus

end OrderDesk
