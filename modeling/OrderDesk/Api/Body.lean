/-
The bodies of requests and answers.

Each kind of body is a record of the JSON texts.  What a request carries is read
here as plain text and numbers; whether an address or a name is acceptable is judged
later, by the service that takes it.
-/
import OrderDesk.Identifier
import OrderDesk.Json.Reader
import OrderDesk.Json.Writer
import OrderDesk.Order.Status

namespace OrderDesk.Api

open OrderDesk.Json

/-! ### Readers of domain values -/

/-- Each status under its word. -/
def statusChoices : List (String × OrderStatus) := OrderStatus.all.map fun s => (s.text, s)

/-- A status. -/
def readStatus : Reader OrderStatus := readChoice statusChoices

/-- A thirty-two bit number. -/
def readInt32 : Reader Int32 := fun ls => (readInt .signed32 "i32" ls).map Int32.ofInt

/-- A user's number. -/
def readUserId : Reader UserId := fun ls => (readInt32 ls).map UserId.mk

/-- An order's number. -/
def readOrderId : Reader OrderId := fun ls => (readInt32 ls).map OrderId.mk

/-! ### Requests -/

/-- What a new user sends. -/
structure SignUp where
  email : String
  password : String
  username : String
  deriving DecidableEq, Repr

/-- What a user sends to get a token. -/
structure SignIn where
  username : String
  password : String
  deriving DecidableEq, Repr

/-- What is sent to create an order. -/
structure CreateOrder where
  status : OrderStatus
  deriving DecidableEq, Repr

/-- What is sent to change an order; without a status only its time changes. -/
structure UpdateOrder where
  status : Option OrderStatus
  deriving DecidableEq, Repr

/-- What is sent to ask for one order. -/
structure OrderQuery where
  id : Option String
  deriving DecidableEq, Repr

/-- The fields of `SignUp`. -/
def signUpRecord : Record :=
  ⟨"SignUpRequest", [.must "email", .must "password", .must "username"]⟩

/-- The fields of `SignIn`. -/
def signInRecord : Record := ⟨"SignInRequest", [.must "username", .must "password"]⟩

/-- The fields of `CreateOrder`. -/
def createOrderRecord : Record := ⟨"CreateOrderRequest", [.may "status"]⟩

/-- The fields of `UpdateOrder`. -/
def updateOrderRecord : Record := ⟨"UpdateOrderRequest", [.may "status"]⟩

/-- The fields of `OrderQuery`. -/
def orderQueryRecord : Record := ⟨"OrderIdQuery", [.mayInObject "id"]⟩

/-- The text of a field that has been read. -/
def textOf (seen : Members String) (name : String) : String := (seen.lookup name).getD ""

/-- Read a `SignUp`. -/
def SignUp.decode (source : List (Option Char)) : Except Refusal SignUp :=
  (decodeRecord signUpRecord (fun _ => readText) source).map fun seen =>
    { email := textOf seen "email"
      password := textOf seen "password"
      username := textOf seen "username" }

/-- Read a `SignIn`. -/
def SignIn.decode (source : List (Option Char)) : Except Refusal SignIn :=
  (decodeRecord signInRecord (fun _ => readText) source).map fun seen =>
    { username := textOf seen "username", password := textOf seen "password" }

/-- Read a `CreateOrder`.  A missing status is the initial one. -/
def CreateOrder.decode (source : List (Option Char)) : Except Refusal CreateOrder :=
  (decodeRecord createOrderRecord (fun _ => readStatus) source).map fun seen =>
    ⟨(seen.lookup "status").getD .initial⟩

/-- Read an `UpdateOrder`. -/
def UpdateOrder.decode (source : List (Option Char)) : Except Refusal UpdateOrder :=
  (decodeRecord updateOrderRecord (fun _ => readOptional readStatus) source).map fun seen =>
    ⟨(seen.lookup "status").join⟩

/-- Read an `OrderQuery` from a JSON text. -/
def OrderQuery.decode (source : List (Option Char)) : Except Refusal OrderQuery :=
  (decodeRecord orderQueryRecord (fun _ => readOptional readText) source).map fun seen =>
    ⟨(seen.lookup "id").join⟩

/-! ### Answers -/

/-- The answer to a registration and to a new order: the number it got, and a word. -/
structure Created (ι : Type) where
  id : ι
  message : String
  deriving DecidableEq, Repr

/-- An answer that is only a word. -/
structure Message where
  message : String
  deriving DecidableEq, Repr

/-- What a field of `Created` may hold. -/
inductive CreatedPart where
  | id (n : Int32)
  | message (s : String)
  deriving DecidableEq, Repr

/-- Read the field of a `Created` with this name. -/
def readCreatedPart (name : String) : Reader CreatedPart := fun ls =>
  if name = "id" then (readInt32 ls).map .id else (readText ls).map .message

/-- Put the fields together. -/
def createdOf (seen : Members CreatedPart) : Created Int32 :=
  { id := match seen.lookup "id" with
      | some (.id n) => n
      | _ => 0
    message := match seen.lookup "message" with
      | some (.message s) => s
      | _ => "" }

/-- Read the answer to a registration. -/
def decodeUserCreated (source : List (Option Char)) : Except Refusal (Created UserId) :=
  (decodeRecord ⟨"SignUpResponse", [.must "id", .must "message"]⟩ readCreatedPart source).map
    fun seen => ⟨⟨(createdOf seen).id⟩, (createdOf seen).message⟩

/-- Read the answer to a new order. -/
def decodeOrderCreated (source : List (Option Char)) : Except Refusal (Created OrderId) :=
  (decodeRecord ⟨"CreateOrderResponse", [.must "id", .must "message"]⟩ readCreatedPart source).map
    fun seen => ⟨⟨(createdOf seen).id⟩, (createdOf seen).message⟩

/-- Read an answer that is only a word. -/
def Message.decode (source : List (Option Char)) : Except Refusal Message :=
  (decodeRecord ⟨"MessageResponse", [.must "message"]⟩ (fun _ => readText) source).map
    fun seen => ⟨textOf seen "message"⟩

/-- Write an answer with a number and a word. -/
def writeCreated (id : Int32) (message : String) : String :=
  writeObject [("id", writeInt id.toInt), ("message", writeText message)]

/-- The answer to a registration as JSON. -/
def encodeUserCreated (r : Created UserId) : String := writeCreated r.id.value r.message

/-- The answer to a new order as JSON. -/
def encodeOrderCreated (r : Created OrderId) : String := writeCreated r.id.value r.message

/-- An answer that is only a word as JSON. -/
def Message.encode (m : Message) : String := writeObject [("message", writeText m.message)]

end OrderDesk.Api
