/-
Where errors are reported.

The place is named by an address: its user is the key that is reported with, and the
last part of its path is the project that is reported on.
-/
import OrderDesk.Url.Basic

namespace OrderDesk

open OrderDesk.Text

/-- Where errors are reported. -/
structure ReportTarget where
  address : Url.Address
  key : String
  project : String
  deriving DecidableEq, Repr

/-- Why an address does not say where errors are reported. -/
inductive ReportTargetError where
  | invalidAddress
  | noProject
  /-- There is a path, but its last part is empty. -/
  | emptyProject
  | noKey
  /-- Reports cannot be sent in this way. -/
  | invalidScheme
  deriving DecidableEq, Repr

namespace ReportTarget

/-- The last part of a path, whose slashes at both ends do not count. -/
def projectOf (path : String) : String :=
  let inner := ((path.toList.dropWhile (· == '/')).reverse.dropWhile (· == '/')).reverse
  String.ofList ((splitAll '/' inner).getLast?.getD [])

/-- Read where errors are reported: first the project, then the key, then the scheme. -/
def parse (s : String) : Except ReportTargetError ReportTarget :=
  match Url.Address.parse s with
  | .error _ => .error .invalidAddress
  | .ok a =>
    if a.path = "/" then .error .noProject
    else if projectOf a.path = "" then .error .emptyProject
    else if a.username = "" then .error .noKey
    else if a.scheme = "http" ∨ a.scheme = "https" then
      .ok { address := a, key := a.username, project := projectOf a.path }
    else .error .invalidScheme

end ReportTarget

end OrderDesk
