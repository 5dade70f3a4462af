/-
What the statements about orders mean.

A statement is sent as a text, and what the text does is up to the database.  Here each of the
five texts about orders is taken apart into a command, with its columns, its condition and its
expressions, and commands are carried out on a table.  Nothing is lost on the way: a command that
is written out again is the text that is sent.

The table is a list of rows in the order in which they lie, which need not be the order of their
numbers, because a row that is changed is written anew behind the others.  Numbers come from a
sequence that counts up from one and takes back nothing.  A statement is refused as a whole if it
would leave what the table must not hold: two rows of one number, an owner who is no user, a
status that is none of the six words, a change before the creation.
-/
import OrderDesk.Postgres.Stores
import OrderDesk.Text.Numeral

namespace OrderDesk.Postgres

open OrderDesk.Text

/-! ### Commands -/

/-- A column of the table of orders. -/
inductive OrderColumn where
  | id
  | userId
  | status
  | createdAt
  | updatedAt
  deriving DecidableEq, Repr

namespace OrderColumn

/-- How a column is called. -/
def name : OrderColumn → String
  | id => "id"
  | userId => "user_id"
  | status => "status"
  | createdAt => "created_at"
  | updatedAt => "updated_at"

/-- The columns in the order in which they are asked for. -/
def all : List OrderColumn := [.id, .userId, .status, .createdAt, .updatedAt]

end OrderColumn

/-- What a column is set to. -/
inductive Expr where
  | column (c : OrderColumn)
  /-- The parameter at this place, counted from one. -/
  | parameter (n : Nat)
  /-- The first of two values that is there. -/
  | coalesce (a b : Expr)
  /-- The greater of two values. -/
  | greatest (a b : Expr)
  /-- A microsecond later. -/
  | nextMicrosecond (a : Expr)
  deriving DecidableEq, Repr

/-- The rows in which each of these columns is equal to a parameter. -/
def Condition := List (OrderColumn × Nat)

/-- What a statement about orders asks for. -/
inductive Command where
  /-- Put in a row with these parameters in these columns, and give back its number. -/
  | insert (values : List (OrderColumn × Nat))
  /-- Give back some columns, in the order of the numbers or as the rows lie. -/
  | select (columns : List OrderColumn) (condition : Condition) (byNumber : Bool)
  | update (sets : List (OrderColumn × Expr)) (condition : Condition)
  | delete (condition : Condition)

/-! ### Commands as texts -/

/-- The place of a parameter. -/
def placeText (n : Nat) : String := "$" ++ natText n

/-- An expression as text. -/
def Expr.text : Expr → String
  | column c => c.name
  | parameter n => placeText n
  | coalesce a b => "COALESCE(" ++ a.text ++ ", " ++ b.text ++ ")"
  | greatest a b => "GREATEST(" ++ a.text ++ ", " ++ b.text ++ ")"
  | nextMicrosecond a => a.text ++ " + interval '1 microsecond'"

/-- A condition as text. -/
def Condition.text (condition : Condition) : String :=
  String.intercalate " AND " (condition.map fun (c, n) => c.name ++ " = " ++ placeText n)

/-- The names of columns as text. -/
def columnsText (columns : List OrderColumn) : String :=
  String.intercalate ", " (columns.map OrderColumn.name)

/-- A command as text. -/
def Command.text : Command → String
  | insert values =>
    "INSERT INTO orders (" ++ columnsText (values.map Prod.fst) ++ ") VALUES (" ++
      String.intercalate ", " (values.map fun (_, n) => placeText n) ++ ") RETURNING id"
  | select columns condition byNumber =>
    "SELECT " ++ columnsText columns ++ " FROM orders WHERE " ++ condition.text ++
      if byNumber then " ORDER BY id" else ""
  | update sets condition =>
    "UPDATE orders SET " ++
      String.intercalate ", " (sets.map fun (c, e) => c.name ++ " = " ++ e.text) ++
      " WHERE " ++ condition.text
  | delete condition => "DELETE FROM orders WHERE " ++ condition.text

/-- One order of one owner. -/
def oneOrder : Condition := [(.id, 1), (.userId, 2)]

/-- All orders of one owner. -/
def ownOrders : Condition := [(.userId, 1)]

namespace Command

def insertOrder : Command :=
  insert [(.userId, 1), (.status, 2), (.createdAt, 3), (.updatedAt, 4)]

def listOrders : Command := select OrderColumn.all ownOrders true

def findOrder : Command := select OrderColumn.all oneOrder false

def updateOrder : Command :=
  update
    [(.status, .coalesce (.parameter 3) (.column .status)),
     (.updatedAt, .greatest (.parameter 4) (.nextMicrosecond (.column .updatedAt)))]
    oneOrder

def deleteOrder : Command := delete oneOrder

end Command

/-- What a statement about orders asks for. -/
def Statement.command? : Statement → Option Command
  | insertOrder _ _ => some .insertOrder
  | listOrders _ => some .listOrders
  | findOrder _ _ => some .findOrder
  | updateOrder _ _ _ => some .updateOrder
  | deleteOrder _ _ => some .deleteOrder
  | createUser _ | findUser _ | ping | echo _ => none

/-- **A command says what the text of its statement says.** -/
theorem Statement.text_of_command? {statement : Statement} {command : Command}
    (h : statement.command? = some command) : command.text = statement.text := by
  cases statement with
  | insertOrder owner order =>
      cases h
      show Command.text _ =
        "INSERT INTO orders (user_id, status, created_at, updated_at) " ++
          "VALUES ($1, $2, $3, $4) RETURNING id"
      decide +kernel
  | listOrders owner =>
      cases h
      show Command.text _ =
        "SELECT id, user_id, status, created_at, updated_at FROM orders " ++
          "WHERE user_id = $1 ORDER BY id"
      decide +kernel
  | findOrder owner id =>
      cases h
      show Command.text _ =
        "SELECT id, user_id, status, created_at, updated_at FROM orders " ++
          "WHERE id = $1 AND user_id = $2"
      decide +kernel
  | updateOrder owner id change =>
      cases h
      show Command.text _ =
        "UPDATE orders SET status = COALESCE($3, status), " ++
          "updated_at = GREATEST($4, updated_at + interval '1 microsecond') " ++
          "WHERE id = $1 AND user_id = $2"
      decide +kernel
  | deleteOrder owner id =>
      cases h
      show Command.text _ = "DELETE FROM orders WHERE id = $1 AND user_id = $2"
      decide +kernel
  | createUser user => cases h
  | findUser name => cases h
  | ping => cases h
  | echo value => cases h

/-! ### Values -/

/-- Why a statement is refused. -/
structure Refusal where
  code : String
  message : String
  deriving DecidableEq, Repr

/-- The answer to a statement that is refused. -/
def Refusal.reply (r : Refusal) : Reply := .refused r.code r.message

/-- The first microsecond that can be stored. -/
def firstMicro : Int := -211813488000000000

/-- The first microsecond that can no longer be stored. -/
def endMicro : Int := 9223371331200000000

/-- A time that can be stored. -/
def timeCell (micros : Int) : Except Refusal Cell :=
  if firstMicro ≤ micros ∧ micros < endMicro then .ok (.time micros)
  else .error ⟨"22008", "timestamp out of range"⟩

/-- A parameter as a value. -/
def Parameter.cell : Parameter → Except Refusal Cell
  | null => .ok .null
  | int n => .ok (.int n)
  | text s => .ok (.text s)
  | time micros => timeCell micros

/-- The value at this place, counted from one. -/
def valueAt (values : List Cell) (n : Nat) : Cell := values.getD (n - 1) .null

/-- The greater of two values.  What is not there does not count. -/
def greatestOf : Cell → Cell → Except Refusal Cell
  | .null, b => .ok b
  | a, .null => .ok a
  | .time a, .time b => .ok (.time (max a b))
  | _, _ => .error ⟨"42804", "types cannot be matched"⟩

/-- A microsecond after a value. -/
def microsecondAfter : Cell → Except Refusal Cell
  | .null => .ok .null
  | .time micros => timeCell (micros + 1)
  | _ => .error ⟨"42883", "operator does not exist"⟩

/-! ### Rows -/

/-- A row of the table of orders. -/
structure Row where
  id : Int32
  userId : Int32
  status : String
  /-- Microseconds since the beginning of 2000, as in every time that is stored. -/
  createdAt : Int
  updatedAt : Int
  deriving DecidableEq, Repr

namespace Row

/-- The value of a column. -/
def cell (row : Row) : OrderColumn → Cell
  | .id => .int row.id
  | .userId => .int row.userId
  | .status => .text row.status
  | .createdAt => .time row.createdAt
  | .updatedAt => .time row.updatedAt

/-- The row with these values, each of which has to be there and of the type of its column. -/
def ofCells (cells : OrderColumn → Except Refusal Cell) : Except Refusal Row := do
  let id ← cells .id
  let userId ← cells .userId
  let status ← cells .status
  let createdAt ← cells .createdAt
  let updatedAt ← cells .updatedAt
  match id, userId, status, createdAt, updatedAt with
  | .int id, .int userId, .text status, .time createdAt, .time updatedAt =>
    .ok ⟨id, userId, status, createdAt, updatedAt⟩
  | _, _, _, _, _ => .error ⟨"23502", "null value violates not-null constraint"⟩

/-- The row is one of those that are meant.  Nothing is equal to a value that is not there. -/
def meets (row : Row) (values : List Cell) (condition : Condition) : Bool :=
  condition.all fun (c, n) => valueAt values n ≠ .null && row.cell c == valueAt values n

end Row

/-- The value of an expression in a row. -/
def Expr.eval (values : List Cell) (row : Row) : Expr → Except Refusal Cell
  | column c => .ok (row.cell c)
  | parameter n => .ok (valueAt values n)
  | coalesce a b => do
    match ← a.eval values row with
    | .null => b.eval values row
    | v => .ok v
  | greatest a b => do greatestOf (← a.eval values row) (← b.eval values row)
  | nextMicrosecond a => do microsecondAfter (← a.eval values row)

/-- The row with some columns set anew, each from the values that the row had before. -/
def Row.set (values : List Cell) (sets : List (OrderColumn × Expr)) (row : Row) :
    Except Refusal Row :=
  ofCells fun c =>
    match sets.lookup c with
    | some e => e.eval values row
    | none => .ok (row.cell c)

/-! ### The database -/

/-- The numbers of the users, the rows of the table of orders as they lie, and the last number
that was drawn for an order. -/
structure Database where
  users : List Int32
  orders : List Row
  lastId : Nat
  deriving DecidableEq, Repr

namespace Database

/-- There are some users and no orders yet. -/
def empty (users : List Int32) : Database := ⟨users, [], 0⟩

/-- The largest number that can be drawn. -/
def maxNumber : Nat := 2147483647

/-- The words for a status. -/
def words : List String := ["pending", "confirmed", "paid", "shipped", "delivered", "cancelled"]

/-- Why the table must not hold these rows. -/
def violation? (db : Database) (rows : List Row) : Option Refusal :=
  if ¬(rows.map Row.id).Nodup then
    some ⟨"23505", "duplicate key value violates unique constraint"⟩
  else if ¬rows.all fun row => db.users.contains row.userId then
    some ⟨"23503", "insert or update violates foreign key constraint"⟩
  else if ¬rows.all fun row => words.contains row.status && row.createdAt ≤ row.updatedAt then
    some ⟨"23514", "new row violates check constraint"⟩
  else none

/-- Keep these rows and answer, unless the table must not hold them. -/
def keep (db : Database) (rows : List Row) (answer : Reply) : Reply × Database :=
  match db.violation? rows with
  | some r => (r.reply, db)
  | none => (answer, { db with orders := rows })

/-- Put in a row with these values, under the next number unless there is a value for it.  The
number is drawn in any case. -/
def insert (db : Database) (values : OrderColumn → Option Cell) : Reply × Database :=
  if db.lastId < maxNumber then
    let number := Int32.ofNat (db.lastId + 1)
    let drawn := { db with lastId := db.lastId + 1 }
    match Row.ofCells fun c => .ok ((values c).getD (if c = .id then .int number else .null)) with
    | .error r => (r.reply, drawn)
    | .ok row => drawn.keep (drawn.orders ++ [row]) (.rows [[row.cell .id]])
  else (.refused "2200H" "reached maximum value of sequence", db)

/-- The rows that are meant. -/
def hits (db : Database) (values : List Cell) (condition : Condition) : List Row :=
  db.orders.filter fun row => row.meets values condition

/-- The rows that are not meant. -/
def others (db : Database) (values : List Cell) (condition : Condition) : List Row :=
  db.orders.filter fun row => !row.meets values condition

/-- Carry out a command with values for its parameters. -/
def run (db : Database) (values : List Cell) : Command → Reply × Database
  | .insert columns => db.insert fun c => (columns.lookup c).map (valueAt values)
  | .select columns condition byNumber =>
    let rows := db.hits values condition
    let rows := if byNumber then rows.mergeSort fun a b => a.id ≤ b.id else rows
    (.rows (rows.map fun row => columns.map row.cell), db)
  | .update sets condition =>
    match (db.hits values condition).mapM (Row.set values sets) with
    | .error r => (r.reply, db)
    | .ok rows => db.keep (db.others values condition ++ rows) (.affected rows.length)
  | .delete condition =>
    (.affected (db.hits values condition).length, { db with orders := db.others values condition })

/-- Carry out a command with these parameters, each of which has to be a value. -/
def answer (db : Database) (parameters : List Parameter) (command : Command) :
    Reply × Database :=
  match parameters.mapM Parameter.cell with
  | .error r => (r.reply, db)
  | .ok values => db.run values command

end Database

/-- The way leads to a database that carries out the statements about orders, as their texts say
and in time. -/
def Faithful (policy : QueryPolicy) (connection : Connection Database) : Prop :=
  ∀ (statement : Statement) (command : Command), statement.command? = some command →
    command.text = statement.text → ∀ db : Database,
    ∃ elapsed : Duration, elapsed.nanos ≤ policy.timeout.nanos ∧
      connection statement db =
        ((db.answer statement.parameters command).1, some elapsed,
          (db.answer statement.parameters command).2)

end OrderDesk.Postgres
