/-
The application on tables in memory.
-/
import OrderDesk.Api.Application
import OrderDesk.Store.Memory

namespace OrderDesk.Api

/-- The tables of the application. -/
structure Tables where
  users : Memory.UserTable
  orders : Memory.OrderTable
  deriving DecidableEq

namespace Tables

/-- Nobody has registered, and there are no orders. -/
def empty : Tables := ⟨.empty, .empty⟩

/-- The store of users in these tables, at the time `now`. -/
def userStore (now : Instant) : CredentialStore Tables :=
  (Memory.userStore now).onPart users fun u t => { t with users := u }

/-- The store of orders in these tables. -/
def orderStore : OrderStore Tables :=
  Memory.orderStore.onPart orders fun o t => { t with orders := o }

end Tables

/-- The services of the application on tables in memory, at the time `now`. -/
def inMemory (passwords : PasswordScheme) (signingKey : String) (now : Instant) :
    Services Tables where
  accounts :=
    { users := Tables.userStore now
      passwords := passwords
      signingKey := signingKey }
  orders := ⟨Tables.orderStore⟩
  ready := Action.done ()

/-- The same services with stores some of whose operations always fail. -/
def Services.withFaults {σ : Type} (users : CredentialFaults) (orders : OrderFaults)
    (services : Services σ) : Services σ :=
  { services with
    accounts := { services.accounts with users := services.accounts.users.withFaults users }
    orders := ⟨services.orders.store.withFaults orders⟩ }

end OrderDesk.Api
