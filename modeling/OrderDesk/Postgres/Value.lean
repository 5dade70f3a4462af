/-
Values on their way to the database and back.

A value goes out as a parameter of a statement and comes back as a cell of a row.  Times
are counted in whole microseconds from the beginning of the year 2000, so a time loses
its smaller parts on the way out.  Names and addresses are read like those of a request
when they come back.
-/
import OrderDesk.Account.Email
import OrderDesk.Account.Username
import OrderDesk.Identifier
import OrderDesk.Order.Status
import OrderDesk.Store.Error
import OrderDesk.Time.Instant

namespace OrderDesk.Postgres

/-! ### Times -/

/-- The beginning of the year 2000, in seconds since the beginning of 1970. -/
def epochSeconds : Int := 946684800

/-- The number of whole microseconds from the beginning of 2000 to a time; what is left of a
microsecond is dropped. -/
def microsOfInstant (t : Instant) : Int :=
  Int.tdiv ((t.seconds - epochSeconds) * Instant.nanosPerSecond + t.nanos) 1000

/-- The time this many microseconds after the beginning of 2000. -/
def instantOfMicros? (micros : Int) : Option Instant :=
  Instant.ofParts? (epochSeconds + micros / 1000000) (micros % 1000000 * 1000).toNat

/-! ### Parameters and cells -/

/-- A value that goes out. -/
inductive Parameter where
  | null
  | int (n : Int32)
  | text (s : String)
  /-- Microseconds since the beginning of 2000. -/
  | time (micros : Int)
  deriving DecidableEq, Repr

/-- A value that comes back. -/
inductive Cell where
  | null
  | bool (b : Bool)
  | int (n : Int32)
  | text (s : String)
  /-- Microseconds since the beginning of 2000. -/
  | time (micros : Int)
  deriving DecidableEq, Repr

/-- Read a number. -/
def readInt : Cell → Except CellError Int32
  | .null => .error .unexpectedNull
  | .int n => .ok n
  | _ => .error .mismatchedTypes

/-- Read a text. -/
def readText : Cell → Except CellError String
  | .null => .error .unexpectedNull
  | .text s => .ok s
  | _ => .error .mismatchedTypes

/-- Read a time. -/
def readTime : Cell → Except CellError Instant
  | .null => .error .unexpectedNull
  | .time micros =>
    match instantOfMicros? micros with
    | some t => .ok t
    | none => .error (.unacceptable "time out of range")
  | _ => .error .mismatchedTypes

/-! ### Values of the domain -/

/-- How a type is sent and received. -/
structure Codec (α : Type) where
  /-- The types of columns that can hold such values. -/
  columnTypes : List String
  encode : α → Parameter
  decode : Cell → Except CellError α

/-- The types of columns that hold texts. -/
def textTypes : List String := ["text", "varchar", "name", "bpchar", "citext", "unknown"]

/-- A type whose values are sent as texts and read by `parse`. -/
def textCodec {ε α : Type} (text : α → String) (parse : String → Except ε α)
    (report : ε → String) : Codec α where
  columnTypes := textTypes
  encode a := .text (text a)
  decode cell :=
    match readText cell with
    | .error e => .error e
    | .ok s => (parse s).mapError fun e => .unacceptable (report e)

/-- A type whose values are sent as numbers. -/
def numberCodec {α : Type} (number : α → Int32) (make : Int32 → α) : Codec α where
  columnTypes := ["int4"]
  encode a := .int (number a)
  decode cell := (readInt cell).map make

def emailCodec : Codec Email := textCodec Email.text Email.parse EmailError.message

def usernameCodec : Codec Username :=
  textCodec Username.text Username.parse UsernameError.message

def statusCodec : Codec OrderStatus :=
  textCodec OrderStatus.text
    (fun s => (OrderStatus.ofText? s).elim (.error (OrderStatus.unknownMessage s)) .ok) id

def userIdCodec : Codec UserId := numberCodec UserId.value UserId.mk

def orderIdCodec : Codec OrderId := numberCodec OrderId.value OrderId.mk

/-- Read a cell of a column of this type.  The type does not matter to an empty cell. -/
def Codec.receive {α : Type} (codec : Codec α) (columnType : String) (cell : Cell) :
    Except CellError α :=
  if cell ≠ .null ∧ ¬codec.columnTypes.contains columnType then .error .mismatchedTypes
  else codec.decode cell

end OrderDesk.Postgres
