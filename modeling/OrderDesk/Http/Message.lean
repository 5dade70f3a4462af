/-
Requests and responses.
-/
import OrderDesk.Http.MediaType
import OrderDesk.Http.Target

namespace OrderDesk.Http

open OrderDesk.Text

/-- A request.  The names of headers are in small letters, and of several headers with one name
only the first counts. -/
structure Request where
  method : String
  target : Target
  headers : List (String × List UInt8)
  body : List UInt8
  deriving DecidableEq, Repr

namespace Request

/-- What cannot be part of any request. -/
inductive Impossible where
  | method
  | target
  | headerName
  | headerValue
  deriving DecidableEq, Repr

/-- Check one header, its name first. -/
def checkHeader (name : String) (value : List UInt8) :
    Except Impossible (String × List UInt8) :=
  if ¬isToken name then .error .headerName
  else if ¬value.all isHeaderValueByte then .error .headerValue
  else .ok (lowerAsciiText name, value)

/-- Put a request together: the method, then the target, then the headers one by one. -/
def ofParts (method : String) (target : List UInt8) (headers : List (String × List UInt8))
    (body : List UInt8) : Except Impossible Request :=
  if ¬isToken method then .error .method
  else
    match Target.parse target with
    | none => .error .target
    | some target => do
      let headers ← headers.mapM fun (name, value) => checkHeader name value
      return { method := method, target := target, headers := headers, body := body }

/-- The first header with this name. -/
def header? (r : Request) (name : String) : Option (List UInt8) := r.headers.lookup name

/-- The request says that its body is JSON. -/
def saysJson (r : Request) : Bool :=
  match (r.header? "content-type").bind headerText? with
  | none => false
  | some text => (MediaType.parse text).any MediaType.isJson

end Request

/-- A response. -/
structure Response where
  status : Nat
  headers : List (String × String)
  body : String
  deriving DecidableEq, Repr

namespace Response

/-- A response without a body. -/
def empty (status : Nat) : Response := ⟨status, [], ""⟩

/-- A response with a JSON text. -/
def json (status : Nat) (body : String) : Response :=
  ⟨status, [("content-type", "application/json")], body⟩

/-- A response with a plain text. -/
def plain (status : Nat) (body : String) : Response :=
  ⟨status, [("content-type", "text/plain; charset=utf-8")], body⟩

/-- The same response with one more header. -/
def withHeader (r : Response) (name value : String) : Response :=
  { r with headers := r.headers ++ [(name, value)] }

/-- The same response with this header in place of all that have its name. -/
def setHeader (r : Response) (name value : String) : Response :=
  { r with headers := r.headers.filter (fun h => h.1 ≠ name) ++ [(name, value)] }

/-- The same response without its body. -/
def withoutBody (r : Response) : Response := { r with body := "" }

/-- The value of the header with this name. -/
def header? (r : Response) (name : String) : Option String := r.headers.lookup name

end Response

end OrderDesk.Http
