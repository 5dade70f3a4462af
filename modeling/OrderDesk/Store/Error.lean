/-
What can go wrong when something is stored or looked up.

There are two layers.  A `DatabaseError` is a report of the database, or of the way to
it.  A `StoreError` is what a store makes of that: it keeps apart what the services
have to tell apart, and wraps everything else.
-/
import OrderDesk.Text.Numeral
import OrderDesk.Text.Quoted
import OrderDesk.Time.Duration

namespace OrderDesk

open OrderDesk.Text

/-! ### The database -/

/-- A column of a row that was received. -/
inductive Column where
  /-- The column at this place, counted from zero. -/
  | place (n : Nat)
  | named (name : String)
  deriving DecidableEq, Repr

/-- How a column is called in reports. -/
def Column.text : Column → String
  | .place n => natText n
  | .named name => quoted name

/-- Why a column cannot be read. -/
inductive CellError where
  /-- The column is empty, but a value is needed. -/
  | unexpectedNull
  /-- The column is of a type that cannot hold such a value. -/
  | mismatchedTypes
  /-- The value is not acceptable, with the report of the type it is for. -/
  | unacceptable (report : String)
  deriving DecidableEq, Repr

/-- The text that reports why a column cannot be read. -/
def CellError.message : CellError → String
  | .unexpectedNull => "unexpected null; try decoding as an `Option`"
  | .mismatchedTypes => "mismatched types"
  | .unacceptable report => report

/-- A report of the database, or of the way to it. -/
inductive DatabaseError where
  /-- A statement that always has a row had none. -/
  | rowNotFound
  /-- No connection became free in time. -/
  | poolTimedOut
  /-- There are no more connections to be had. -/
  | poolClosed
  /-- What came over the connection makes no sense. -/
  | protocol (message : String)
  /-- The statement was refused, with the code and the words of the database. -/
  | refused (code message : String)
  /-- A row was received, but one of its columns cannot be read. -/
  | unreadable (column : Column) (reason : CellError)
  /-- The connection went away. -/
  | lostConnection
  /-- There is no way to the database. -/
  | unreachable (reason : String)
  /-- The settings do not say where the database is. -/
  | configuration (message : String)
  deriving DecidableEq, Repr

/-- The text that reports the error. -/
def DatabaseError.message : DatabaseError → String
  | .rowNotFound => "no rows returned by a query that expected to return at least one row"
  | .poolTimedOut => "pool timed out while waiting for an open connection"
  | .poolClosed => "attempted to acquire a connection on a closed pool"
  | .protocol message => "encountered unexpected or invalid data: " ++ message
  | .refused _ message => "error returned from database: " ++ message
  | .unreadable column reason =>
    "error occurred while decoding column " ++ column.text ++ ": " ++ reason.message
  | .lostConnection => "lost connection"
  | .unreachable reason => "error communicating with database: " ++ reason
  | .configuration message => "error with configuration: " ++ message

/-- The texts of the error and of what lies beneath it, beginning with the innermost. -/
def DatabaseError.chain : DatabaseError → List String
  | .refused code message => [message, DatabaseError.message (.refused code message)]
  | .unreadable column reason =>
    [reason.message, DatabaseError.message (.unreadable column reason)]
  | e => [e.message]

/-! ### The stores -/

/-- What a store reports. -/
inductive StoreError where
  | database (cause : DatabaseError)
  /-- What is stored is not what was once accepted. -/
  | dataCorruption (message : String)
  /-- There is no such thing, or it belongs to somebody else. -/
  | notFound
  /-- Something of that name is there already. -/
  | conflict (message : String)
  /-- The operation took too long. -/
  | timeout (operation : String) (limit : Duration)
  deriving DecidableEq, Repr

/-- The text that reports the error. -/
def StoreError.message : StoreError → String
  | .database cause => "database error: " ++ cause.message
  | .dataCorruption message => "data corruption: " ++ message
  | .notFound => "not found"
  | .conflict message => "constraint violation: " ++ message
  | .timeout operation limit =>
    operation ++ " timed out after " ++ natText limit.millis ++ "ms"

/-- The texts of the error and of what lies beneath it, beginning with the innermost. -/
def StoreError.chain : StoreError → List String
  | .database cause => cause.chain ++ [StoreError.message (.database cause)]
  | e => [e.message]

end OrderDesk
