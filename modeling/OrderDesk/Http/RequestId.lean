/-
The number of a request.

Every request has an identifier, which stands in the log and in the response.  A caller
may give one, if it is short and can be seen; otherwise a random one is made.
-/
import OrderDesk.Http.Message
import OrderDesk.Text.Blank
import OrderDesk.Text.Uuid

namespace OrderDesk.Http.RequestId

open OrderDesk.Text

/-- The header that holds the identifier. -/
def headerName : String := "x-request-id"

/-- An identifier has at most this many bytes. -/
def maxLength : Nat := 128

/-- A character that can be seen. -/
def isGraphic (c : Char) : Bool := '!' ≤ c && c ≤ '~'

/-- An identifier that a caller may give. -/
def isUsable (id : String) : Bool :=
  id ≠ "" && id.utf8ByteSize ≤ maxLength && id.toList.all isGraphic

/-- The identifier that the caller gives. -/
def given? (r : Request) : Option String :=
  (((r.header? headerName).bind headerText?).map trimmed).filter isUsable

/-- The identifier of a request, or one made from random bytes. -/
def ofRequest (r : Request) (random : Vector UInt8 16) : String :=
  (given? r).getD (Uuid.ofRandom random)

/-- A response with the identifier of its request, if that can be sent. -/
def stamp (id : String) (response : Response) : Response :=
  if (Utf8.encode id).all isHeaderValueByte then response.setHeader headerName id else response

section Stamp

variable (id : String) (response : Response)

@[simp] theorem status_stamp : (stamp id response).status = response.status := by
  unfold stamp
  split <;> rfl

@[simp] theorem body_stamp : (stamp id response).body = response.body := by
  unfold stamp
  split <;> rfl

/-- No other header is touched. -/
theorem otherHeaders_stamp :
    (stamp id response).headers.filter (fun h => h.1 ≠ headerName) =
      response.headers.filter fun h => h.1 ≠ headerName := by
  unfold stamp
  split
  · simp [Response.setHeader]
  · rfl

end Stamp

end OrderDesk.Http.RequestId
