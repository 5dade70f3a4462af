/-
The credential of a caller.

A caller sends a token in a header, after the word `Bearer` and one space.  The value
of a header is a row of bytes; here only those that can be seen, blanks and tabs count
as text.
-/
import OrderDesk.Http.Syntax
import OrderDesk.Text.Blank

namespace OrderDesk.Bearer

open OrderDesk.Http
open OrderDesk.Text

/-- Why there is no token. -/
inductive CredentialError where
  | missing
  | malformed
  deriving DecidableEq, Repr

/-- The token in the value of a header. -/
def tokenOf (value : Option (List UInt8)) : Except CredentialError String :=
  match value with
  | none => .error .missing
  | some bytes =>
    match headerText? bytes with
    | none => .error .malformed
    | some text =>
      if trim text.toList = [] then .error .missing
      else
        match splitAll ' ' text.toList with
        | [scheme, token] =>
          if equalIgnoringCase scheme "bearer".toList ∧ token ≠ [] then .ok (String.ofList token)
          else .error .malformed
        | _ => .error .malformed

end OrderDesk.Bearer
