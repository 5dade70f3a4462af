/-
What a request asks for.

Paths are compared as they are written, with their percent signs.  A request for the
head of a resource is a request for the resource whose body is not sent.
-/
import OrderDesk.Http.Message

namespace OrderDesk.Api

open OrderDesk.Http
open OrderDesk.Text

/-- The places that a path can name. -/
inductive Place where
  | health
  | readiness
  | signUp
  | signIn
  /-- All orders, with or without a slash at the end. -/
  | orders
  | orderList
  /-- One order, with the part of the path that names it. -/
  | order (id : List UInt8)
  deriving DecidableEq, Repr

/-- What is asked for about orders. -/
inductive OrderRequest where
  | create
  | getByQuery
  | list
  | getByPath (id : List UInt8)
  | update (id : List UInt8)
  | delete (id : List UInt8)
  deriving DecidableEq, Repr

/-- What is asked for. -/
inductive Endpoint where
  | health
  | readiness
  | signUp
  | signIn
  /-- Only for callers who are known. -/
  | order (what : OrderRequest)
  deriving DecidableEq, Repr

/-- The paths of which nothing varies. -/
def fixedPlaces : List (List UInt8 × Place) :=
  [("/health", Place.health), ("/health/ready", .readiness), ("/auth/sign-up", .signUp),
   ("/auth/sign-in", .signIn), ("/order", .orders), ("/order/", .orders),
   ("/order/orders", .orderList)].map fun (path, place) => (Utf8.encode path, place)

/-- The beginning of the path of one order. -/
def orderPath : List UInt8 := Utf8.encode "/order/"

/-- The place that a path names. -/
def placeOf (path : List UInt8) : Option Place :=
  match fixedPlaces.lookup path with
  | some place => some place
  | none =>
    let id := path.drop orderPath.length
    if orderPath.isPrefixOf path ∧ id ≠ [] ∧ ¬id.contains 0x2F then some (.order id) else none

/-- What each method asks for at a place. -/
def Place.methods : Place → List (String × Endpoint)
  | .health => [("GET", .health)]
  | .readiness => [("GET", .readiness)]
  | .signUp => [("POST", .signUp)]
  | .signIn => [("POST", .signIn)]
  | .orders => [("POST", .order .create), ("GET", .order .getByQuery)]
  | .orderList => [("GET", .order .list)]
  | .order id =>
    [("GET", .order (.getByPath id)), ("PUT", .order (.update id)),
     ("DELETE", .order (.delete id))]

/-- The methods of a place, with the one for the head of what can be got. -/
def Place.allowed (p : Place) : String :=
  String.intercalate "," (p.methods.flatMap fun (method, _) =>
    if method = "GET" then ["GET", "HEAD"] else [method])

/-- What comes of looking at path and method. -/
inductive Routing where
  | found (endpoint : Endpoint)
  | notFound
  | methodNotAllowed (allowed : String)
  deriving DecidableEq, Repr

/-- Look at path and method. -/
def route (path : List UInt8) (method : String) : Routing :=
  match placeOf path with
  | none => .notFound
  | some place =>
    match place.methods.lookup (if method = "HEAD" then "GET" else method) with
    | some endpoint => .found endpoint
    | none => .methodNotAllowed place.allowed

end OrderDesk.Api
