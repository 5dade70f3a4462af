/-
Answering requests.

A request is first given an identifier, then led to what it asks for.  Whoever asks
for orders has to be known before anything else about the request is looked at.  What
goes wrong on the way becomes a response here, and nowhere else.
-/
import OrderDesk.Api.Body
import OrderDesk.Api.Error
import OrderDesk.Api.Route
import OrderDesk.Bearer.Credential
import OrderDesk.Http.RequestId
import OrderDesk.Time.Calendar
import OrderDesk.Url.Percent

namespace OrderDesk.Api

open OrderDesk.Http
open OrderDesk.Text

/-- What the application works with. -/
structure Services (σ : Type) where
  accounts : Accounts σ
  orders : Orders σ
  /-- Whether the database can be reached. -/
  ready : Action σ DatabaseError Unit

/-- What is new at every request: the time, and random bytes. -/
structure Occasion where
  now : Instant
  salt : List UInt8
  idBytes : Vector UInt8 16
  deriving DecidableEq, Repr

variable {σ : Type}

/-! ### Who is calling -/

/-- The user who sends a request. -/
def identify (signingKey : String) (now : Instant) (r : Request) : Except ApiError UserId :=
  match Bearer.tokenOf (r.header? "authorization") with
  | .error .missing => .error .missingCredential
  | .error .malformed => .error .malformedCredential
  | .ok token => (Accounts.identify signingKey now token).mapError .auth

/-! ### What is sent -/

/-- A body has at most this many bytes. -/
def maxBodyBytes : Nat := 2097152

/-- The report about a body that is refused, cut.  What is left out is the reason why a malformed
text is malformed, and behind either report the line and the column, counted in bytes, where the
decoder stopped. -/
def refusalText : Json.Refusal → String
  | .malformed => "Failed to parse the request body as JSON"
  | .mismatch path what =>
    "Failed to deserialize the JSON body into the target type: " ++
      (if path = [] then "" else Json.pathText path ++ ": ") ++ what.message

/-- Read the body of a request: first its kind is looked at, then its size, then its text. -/
def readBody {α : Type} (decode : List (Option Char) → Except Json.Refusal α) (r : Request) :
    Except ApiError α :=
  if ¬r.saysJson then
    .error (.validation "Expected request with `Content-Type: application/json`")
  else if maxBodyBytes < r.body.length then
    .error (.validation "Failed to buffer the request body: length limit exceeded")
  else (decode (Utf8.decode r.body)).mapError fun e => .validation (refusalText e)

/-- Read the query of a request for one order.  Everything but the number is ignored, and there
may not be two of it. -/
def readQuery (r : Request) : Except ApiError OrderQuery :=
  match (Url.formPairs r.target.query).filter fun pair => pair.1 = "id" with
  | [] => .ok ⟨none⟩
  | [(_, value)] => .ok ⟨some value⟩
  | _ => .error (.validation
      ("Failed to deserialize query string: " ++ (Json.Mismatch.duplicateField "id").message))

/-- Read the number of an order. -/
def readOrderNumber (s : String) : Except ApiError OrderId :=
  match OrderId.parse s with
  | .ok id => .ok id
  | .error _ => .error (.validation ("invalid order id: " ++ quoted s))

/-! ### What is answered -/

/-- An order as JSON. -/
def orderBody (o : Order) : String :=
  Json.writeObject
    [("id", Json.writeInt o.id.value.toInt), ("user_id", Json.writeInt o.owner.value.toInt),
     ("status", Json.writeText o.status.text),
     ("created_at", Json.writeText (Calendar.utcText o.createdAt)),
     ("updated_at", Json.writeText (Calendar.utcText o.updatedAt))]

/-- A list of orders as JSON. -/
def orderListBody (orders : List Order) : String :=
  Json.writeObject
    [("orders", Json.writeArray (orders.map orderBody)),
     ("message", Json.writeText "Orders retrieved successfully")]

/-- A new token as JSON. -/
def tokenBody (issued : Bearer.Issued) : String :=
  Json.writeObject
    [("token", Json.writeText issued.token),
     ("expires_at", Json.writeText (Calendar.utcText issued.expiresAt)),
     ("message", Json.writeText "Signed in successfully")]

/-! ### What is done -/

/-- Register a user. -/
def signUp (services : Services σ) (occasion : Occasion) (r : Request) :
    Action σ ApiError Response := do
  let body ← Action.ofExcept (readBody SignUp.decode r)
  let id ← (services.accounts.register occasion.salt
    ⟨body.username, body.email, body.password⟩).mapError .auth
  return .json 200 (encodeUserCreated ⟨id, "User created successfully"⟩)

/-- Check that there is something to sign in with. -/
def checkSignIn (body : SignIn) : Except ApiError Unit :=
  if trim body.username.toList = [] then .error (.validation "username is required")
  else if body.password = "" then .error (.validation "password is required")
  else .ok ()

/-- Sign a user in. -/
def signIn (services : Services σ) (occasion : Occasion) (r : Request) :
    Action σ ApiError Response := do
  let body ← Action.ofExcept (readBody SignIn.decode r)
  Action.ofExcept (checkSignIn body)
  let issued ←
    (services.accounts.login occasion.now body.username body.password).mapError .auth
  return .json 200 (tokenBody issued)

/-- Tell whether the database can be reached. -/
def readiness (services : Services σ) : Action σ ApiError Response := do
  match ← services.ready.attempt with
  | .ok () => return .empty 200
  | .error e =>
    Action.note ⟨.warn, "readiness check failed", [("error", e.message)]⟩
    return .empty 503

/-- Create an order. -/
def createOrder (services : Services σ) (occasion : Occasion) (user : UserId) (r : Request) :
    Action σ ApiError Response := do
  let body ← Action.ofExcept (readBody CreateOrder.decode r)
  let id ← (services.orders.create occasion.now user body.status).mapError .order
  return .json 201 (encodeOrderCreated ⟨id, "Order created successfully"⟩)

/-- List the orders of the caller. -/
def listOrders (services : Services σ) (user : UserId) : Action σ ApiError Response := do
  let orders ← (services.orders.list user).mapError .order
  return .json 200 (orderListBody orders)

/-- Fetch the order with the number that a text says. -/
def getOrder (services : Services σ) (user : UserId) (number : String) :
    Action σ ApiError Response := do
  let id ← Action.ofExcept (readOrderNumber number)
  let order ← (services.orders.get user id).mapError .order
  return .json 200 (orderBody order)

/-- Fetch the order that the query names. -/
def getByQuery (services : Services σ) (user : UserId) (r : Request) :
    Action σ ApiError Response := do
  let query ← Action.ofExcept (readQuery r)
  match query.id with
  | none => Action.fail (.validation "missing order id")
  | some number => getOrder services user number

/-- Change the order with the number that a text says.  The number is judged before the body. -/
def updateOrder (services : Services σ) (occasion : Occasion) (user : UserId) (number : String)
    (r : Request) : Action σ ApiError Response := do
  let id ← Action.ofExcept (readOrderNumber number)
  let body ← Action.ofExcept (readBody UpdateOrder.decode r)
  (services.orders.update occasion.now user id body.status).mapError .order
  return .json 200 (Message.encode ⟨"Order updated successfully"⟩)

/-- Remove the order with the number that a text says. -/
def deleteOrder (services : Services σ) (user : UserId) (number : String) :
    Action σ ApiError Response := do
  let id ← Action.ofExcept (readOrderNumber number)
  (services.orders.delete user id).mapError .order
  return .json 200 (Message.encode ⟨"Order deleted successfully"⟩)

/-- Go on with the text that a part of the path stands for. -/
def withPathText (part : List UInt8) (next : String → Action σ ApiError Response) :
    Action σ ApiError Response :=
  match Utf8.decode? (Url.percentDecode part) with
  | some text => next text
  | none => Action.done (.plain 400 "Invalid URL: Invalid UTF-8 in `id`")

/-- Do what is asked for about orders by a caller who is known. -/
def serveOrder (services : Services σ) (occasion : Occasion) (r : Request) (user : UserId) :
    OrderRequest → Action σ ApiError Response
  | .create => createOrder services occasion user r
  | .getByQuery => getByQuery services user r
  | .list => listOrders services user
  | .getByPath part => withPathText part fun number => getOrder services user number
  | .update part => withPathText part fun number => updateOrder services occasion user number r
  | .delete part => withPathText part fun number => deleteOrder services user number

/-! ### The whole -/

/-- A response, and the report about an error that lies behind it. -/
structure Answer where
  response : Response
  report : Option Report
  deriving DecidableEq, Repr

/-- The response to an error. -/
def ApiError.response (e : ApiError) : Response := .json e.kind.status e.body

/-- Turn an error into a response, write it to the log and report it if need be. -/
def conclude (requestId : String) (caller : Option UserId) (x : Action σ ApiError Response) :
    Action σ Empty Answer := do
  match ← x.attempt with
  | .ok response => return ⟨response, none⟩
  | .error e =>
    Action.note e.entry
    return ⟨e.response, e.report requestId caller⟩

/-- Do what is asked for. -/
def serveEndpoint (services : Services σ) (occasion : Occasion) (requestId : String)
    (r : Request) : Endpoint → Action σ Empty Answer
  | .health => return ⟨.plain 200 "ok", none⟩
  | .readiness => conclude requestId none (readiness services)
  | .signUp => conclude requestId none (signUp services occasion r)
  | .signIn => conclude requestId none (signIn services occasion r)
  | .order what =>
    match identify services.accounts.signingKey occasion.now r with
    | .error e => conclude requestId none (Action.fail e)
    | .ok user => conclude requestId (some user) (serveOrder services occasion r user what)

/-- Answer what path and method ask for. -/
def serveRoute (services : Services σ) (occasion : Occasion) (requestId : String) (r : Request) :
    Action σ Empty Answer :=
  match route r.target.path r.method with
  | .notFound => return ⟨.empty 404, none⟩
  | .methodNotAllowed allowed => return ⟨(Response.empty 405).withHeader "allow" allowed, none⟩
  | .found endpoint => serveEndpoint services occasion requestId r endpoint

/-- Answer a request. -/
def serve (services : Services σ) (occasion : Occasion) (r : Request) : Action σ Empty Answer := do
  let requestId := RequestId.ofRequest r occasion.idBytes
  let answer ← serveRoute services occasion requestId r
  let response := if r.method = "HEAD" then answer.response.withoutBody else answer.response
  return { answer with response := RequestId.stamp requestId response }

end OrderDesk.Api
