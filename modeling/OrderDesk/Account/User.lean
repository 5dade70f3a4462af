/-
Registered users.
-/
import OrderDesk.Account.Email
import OrderDesk.Account.Username
import OrderDesk.Identifier
import OrderDesk.Time.Instant

namespace OrderDesk

/-- A user.  Nothing about a user changes after registration. -/
structure User where
  id : UserId
  username : Username
  email : Email
  /-- The text against which the password is checked. -/
  passwordHash : String
  createdAt : Instant
  deriving DecidableEq

/-- What is needed to store a new user. -/
structure NewUser where
  username : Username
  email : Email
  passwordHash : String
  deriving DecidableEq

end OrderDesk
