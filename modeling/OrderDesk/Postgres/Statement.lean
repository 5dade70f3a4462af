/-
What is said to the database, and what it answers.

The statements are a fixed list.  Each has a text with numbered places and a parameter
for every place, so nothing that came from outside ever becomes part of the text.
-/
import OrderDesk.Account.User
import OrderDesk.Order.Basic
import OrderDesk.Postgres.Value

namespace OrderDesk.Postgres

/-- The statements. -/
inductive Statement where
  | createUser (user : NewUser)
  | findUser (name : Username)
  | insertOrder (owner : UserId) (order : NewOrder)
  | listOrders (owner : UserId)
  | findOrder (owner : UserId) (id : OrderId)
  | updateOrder (owner : UserId) (id : OrderId) (change : OrderUpdate)
  | deleteOrder (owner : UserId) (id : OrderId)
  /-- Only asks whether the database is there. -/
  | ping
  /-- Gives back the value it is given. -/
  | echo (value : Parameter)
  deriving DecidableEq

namespace Statement

/-- The text of a statement. -/
def text : Statement → String
  | createUser _ =>
    "INSERT INTO users (username, email, password_hash) VALUES ($1, $2, $3) RETURNING id"
  | findUser _ =>
    "SELECT id, username, email, password_hash, created_at FROM users WHERE username = $1"
  | insertOrder _ _ =>
    "INSERT INTO orders (user_id, status, created_at, updated_at) " ++
      "VALUES ($1, $2, $3, $4) RETURNING id"
  | listOrders _ =>
    "SELECT id, user_id, status, created_at, updated_at FROM orders " ++
      "WHERE user_id = $1 ORDER BY id"
  | findOrder _ _ =>
    "SELECT id, user_id, status, created_at, updated_at FROM orders " ++
      "WHERE id = $1 AND user_id = $2"
  | updateOrder _ _ _ =>
    "UPDATE orders SET status = COALESCE($3, status), " ++
      "updated_at = GREATEST($4, updated_at + interval '1 microsecond') " ++
      "WHERE id = $1 AND user_id = $2"
  | deleteOrder _ _ => "DELETE FROM orders WHERE id = $1 AND user_id = $2"
  | ping => "SELECT 1"
  | echo _ => "SELECT $1 AS value"

/-- A time as a parameter. -/
def timeParameter (t : Instant) : Parameter := .time (microsOfInstant t)

/-- The parameters of a statement. -/
def parameters : Statement → List Parameter
  | createUser user =>
    [usernameCodec.encode user.username, emailCodec.encode user.email, .text user.passwordHash]
  | findUser name => [usernameCodec.encode name]
  | insertOrder owner order =>
    [userIdCodec.encode owner, statusCodec.encode order.status, timeParameter order.createdAt,
     timeParameter order.updatedAt]
  | listOrders owner => [userIdCodec.encode owner]
  | findOrder owner id => [orderIdCodec.encode id, userIdCodec.encode owner]
  | updateOrder owner id change =>
    [orderIdCodec.encode id, userIdCodec.encode owner,
     (change.status.map statusCodec.encode).getD .null, timeParameter change.touchedAt]
  | deleteOrder owner id => [orderIdCodec.encode id, userIdCodec.encode owner]
  | ping => []
  | echo value => [value]

end Statement

/-- What the database answers. -/
inductive Reply where
  /-- Rows, each with a cell for every column that was asked for. -/
  | rows (rows : List (List Cell))
  /-- The number of rows that the statement had an effect on. -/
  | affected (n : Nat)
  /-- The statement was refused. -/
  | refused (code message : String)
  /-- The connection went away. -/
  | lost
  deriving DecidableEq, Repr

namespace Reply

/-- The rows of an answer. -/
def rows? : Reply → Except DatabaseError (List (List Cell))
  | rows rs => .ok rs
  | affected _ => .ok []
  | refused code message => .error (.refused code message)
  | lost => .error .lostConnection

/-- The number of rows that were affected. -/
def affected? : Reply → Except DatabaseError Nat
  | rows rs => .ok rs.length
  | affected n => .ok n
  | refused code message => .error (.refused code message)
  | lost => .error .lostConnection

end Reply

/-- A way to the database: what becomes of a statement, and after which time.  Without a time
there is never an answer. -/
def Connection (δ : Type) := Statement → δ → Reply × Option Duration × δ

end OrderDesk.Postgres
