/-
The stores that are kept in a database.

Every operation is one statement under a deadline.  All statements about orders name
the owner, so an order of somebody else cannot be told from one that is not there.
What comes back is read with suspicion, for somebody else may have written it.
-/
import OrderDesk.Postgres.Statement
import OrderDesk.Store.Basic
import OrderDesk.Store.Deadline

namespace OrderDesk.Postgres

/-! ### Reading rows -/

/-- Read the column at this place of a row, which is called `column` in reports. -/
def readCell {α : Type} (column : Column) (row : List Cell) (place : Nat)
    (read : Cell → Except CellError α) : Except StoreError α :=
  (read (row.getD place .null)).mapError fun e => .database (.unreadable column e)

/-- Read the only column of the first row, which has to be there. -/
def readFirst {α : Type} (read : Cell → Except CellError α) :
    List (List Cell) → Except StoreError α
  | [] => .error (.database .rowNotFound)
  | row :: _ => readCell (.place 0) row 0 read

/-- Read a user. -/
def readUser (row : List Cell) : Except StoreError User := do
  let id ← readCell (.named "id") row 0 userIdCodec.decode
  let username ← readCell (.named "username") row 1 readText
  let email ← readCell (.named "email") row 2 readText
  let passwordHash ← readCell (.named "password_hash") row 3 readText
  let createdAt ← readCell (.named "created_at") row 4 readTime
  let username ← (Username.parse username).mapError fun e =>
    StoreError.dataCorruption ("invalid username in database: " ++ e.message)
  let email ← (Email.parse email).mapError fun e =>
    StoreError.dataCorruption ("invalid email in database: " ++ e.message)
  return { id := id
           username := username
           email := email
           passwordHash := passwordHash
           createdAt := createdAt }

/-- Read an order. -/
def readOrder (row : List Cell) : Except StoreError Order := do
  let id ← readCell (.named "id") row 0 orderIdCodec.decode
  let owner ← readCell (.named "user_id") row 1 userIdCodec.decode
  let status ← readCell (.named "status") row 2 statusCodec.decode
  let createdAt ← readCell (.named "created_at") row 3 readTime
  let updatedAt ← readCell (.named "updated_at") row 4 readTime
  return { id := id
           owner := owner
           status := status
           createdAt := createdAt
           updatedAt := updatedAt }

/-- Read the first row, if there is one. -/
def readOptional {α : Type} (read : List Cell → Except StoreError α) :
    List (List Cell) → Except StoreError α
  | [] => .error .notFound
  | row :: _ => read row

/-! ### Reading answers -/

/-- The code of a refusal because something of that name is there already. -/
def uniqueViolation : String := "23505"

/-- What an error of the database means to the operation that creates a user. -/
def conflictOrDatabase : DatabaseError → StoreError
  | .refused code message =>
    if code = uniqueViolation then .conflict "username or email already exists"
    else .database (.refused code message)
  | e => .database e

/-- Read the rows of an answer. -/
def ofRows {α : Type} (report : DatabaseError → StoreError)
    (read : List (List Cell) → Except StoreError α) (reply : Reply) : Except StoreError α :=
  match reply.rows? with
  | .error e => .error (report e)
  | .ok rows => read rows

/-- Nothing is to be found when no row was affected. -/
def ofAffected (reply : Reply) : Except StoreError Unit :=
  match reply.affected? with
  | .error e => .error (.database e)
  | .ok 0 => .error .notFound
  | .ok _ => .ok ()

/-! ### The stores -/

variable {δ : Type}

/-- Say something to the database and read the answer, under a deadline. -/
def ask {α : Type} (connection : Connection δ) (policy : QueryPolicy) (operation : String)
    (statement : Statement) (read : Reply → Except StoreError α) : Action δ StoreError α :=
  bounded policy operation fun s =>
    let (reply, elapsed, s) := connection statement s
    ⟨Action.ofExcept (read reply) s, elapsed⟩

/-- The store of users in a database. -/
def userStore (connection : Connection δ) (policy : QueryPolicy) : CredentialStore δ where
  create user :=
    ask connection policy Operation.createUser (.createUser user)
      (ofRows conflictOrDatabase (readFirst userIdCodec.decode))
  findByUsername name :=
    ask connection policy Operation.findByUsername (.findUser name)
      (ofRows .database (readOptional readUser))

/-- The store of orders in a database. -/
def orderStore (connection : Connection δ) (policy : QueryPolicy) : OrderStore δ where
  insert owner order :=
    ask connection policy Operation.insertOrder (.insertOrder owner order)
      (ofRows .database (readFirst orderIdCodec.decode))
  listByOwner owner :=
    ask connection policy Operation.listOrders (.listOrders owner)
      (ofRows .database (List.mapM readOrder))
  findOne owner id :=
    ask connection policy Operation.findOrder (.findOrder owner id)
      (ofRows .database (readOptional readOrder))
  update owner id change :=
    ask connection policy Operation.updateOrder (.updateOrder owner id change) ofAffected
  delete owner id :=
    ask connection policy Operation.deleteOrder (.deleteOrder owner id) ofAffected

/-! ### Other statements -/

/-- Ask whether the database is there.  There is no deadline. -/
def ready (connection : Connection δ) : Action δ DatabaseError Unit := fun s =>
  let (reply, elapsed, s) := connection .ping s
  match reply.rows?, elapsed with
  | .error e, _ => Action.fail e s
  | .ok _, none => Action.fail .poolTimedOut s
  | .ok _, some _ => Action.done () s

/-- Send a value to the database and read it back, from a column of the type that is said. -/
def sendBack {α : Type} (codec : Codec α) (columnType : String) (connection : Connection δ)
    (value : α) : Action δ StoreError α := fun s =>
  let (reply, _, s) := connection (.echo (codec.encode value)) s
  Action.ofExcept (ofRows .database (readFirst (codec.receive columnType)) reply) s

end OrderDesk.Postgres
