/-
Registering and signing in, each as one call of the store.

Both handlers read a body, hand it to the service of accounts and put what comes back into words.
Once the body has been judged there is one call of the store of users left, and everything that
is answered, written or changed follows from how that call ends.  A text that is no name is
settled without the store.
-/
import OrderDesk.Proofs.Api.SignIn

namespace OrderDesk.Api

open OrderDesk.Accounts (Application accepted registeredEntry unknownUserEntry)
open OrderDesk.Http

/-- How the work on a registration ends, when the call that adds the user ends in this way. -/
def registered : Ending StoreError UserId → Ending ApiError Response
  | .done id => .done (.json 200 (encodeUserCreated ⟨id, "User created successfully"⟩))
  | .failed e => .failed (.auth (Accounts.ofCreateError e))
  | .aborted => .aborted

/-- How the work on signing in ends, when the service of accounts comes to this. -/
def signedIn : Ending AuthError Bearer.Issued → Ending ApiError Response
  | .done issued => .done (.json 200 (tokenBody issued))
  | .failed e => .failed (.auth e)
  | .aborted => .aborted

variable {σ : Type} {services : Services σ} {occasion : Occasion} {r : Request} {s : σ}

/-! ### Registering -/

section SignUp

variable {body : SignUp} (hroute : route r.target.path r.method = .found .signUp)
  (hbody : readBody SignUp.decode r = .ok body)

include hroute hbody

theorem work_of_signUp :
    work services occasion r =
      (fun id => Response.json 200 (encodeUserCreated ⟨id, "User created successfully"⟩)) <$>
        (services.accounts.register occasion.salt
          ⟨body.username, body.email, body.password⟩).mapError ApiError.auth := by
  rw [work, hroute]
  simp only [signUp, hbody, Action.ofExcept, Action.done_bind]
  rfl

/-- What is not valid is refused without a call. -/
theorem signUp_of_fault {e : AuthError}
    (h : Application.Fault ⟨body.username, body.email, body.password⟩ e) :
    work services occasion r s = ⟨.failed (.auth e), [], s⟩ := by
  rw [work_of_signUp hroute hbody, Action.map_eq, Action.mapError_eq]
  simp only [Accounts.register_of_fault h]
  rfl

/-- **A valid registration is one call of the store.** -/
theorem signUp_call {username : Username} {email : Email}
    (h : Application.Valid ⟨body.username, body.email, body.password⟩ username email) :
    work services occasion r s =
      let call := services.accounts.users.create
        (accepted services.accounts.passwords occasion.salt body.password username email) s
      ⟨registered call.ending, call.log ++ Action.announced registeredEntry call.ending,
        call.state⟩ := by
  rw [work_of_signUp hroute hbody, Action.map_eq, Action.mapError_eq]
  simp only [Accounts.register_eq h]
  cases (services.accounts.users.create
    (accepted services.accounts.passwords occasion.salt body.password username email) s).ending <;>
    rfl

end SignUp

/-! ### Signing in -/

section SignIn

variable {body : SignIn} (hroute : route r.target.path r.method = .found .signIn)
  (hbody : readBody SignIn.decode r = .ok body)

include hroute hbody

/-- Where something is left out, there is no call. -/
theorem signIn_of_missing {what : String} (h : missingIn body = some what) :
    work services occasion r s = ⟨.failed (.validation what), [], s⟩ := by
  rw [work, hroute]
  simp only [signIn, hbody, checkSignIn_eq, h, Action.ofExcept, Action.done_bind,
    Action.fail_bind]
  rfl

variable (hfilled : missingIn body = none)

include hfilled

theorem work_of_signIn :
    work services occasion r =
      (fun issued => Response.json 200 (tokenBody issued)) <$>
        (services.accounts.login occasion.now body.username body.password).mapError
          ApiError.auth := by
  rw [work, hroute]
  simp only [signIn, hbody, checkSignIn_eq, hfilled, Action.ofExcept, Action.done_bind]
  rfl

/-- A text that is no name is refused without a call. -/
theorem signIn_of_noName {cause : UsernameError} (h : Username.parse body.username = .error cause) :
    work services occasion r s =
      ⟨.failed (.auth .invalidCredentials), [unknownUserEntry body.username], s⟩ := by
  rw [work_of_signIn hroute hbody hfilled, Action.map_eq, Action.mapError_eq]
  simp only [Accounts.login_of_noName h]
  rfl

/-- **Signing in under a name is one call of the store.** -/
theorem signIn_call {username : Username} (h : Username.parse body.username = .ok username) :
    work services occasion r s =
      let call := services.accounts.users.findByUsername username s
      let verdict := services.accounts.verdict occasion.now body.username body.password call.ending
      ⟨signedIn verdict.1, call.log ++ verdict.2, call.state⟩ := by
  rw [work_of_signIn hroute hbody hfilled, Action.map_eq, Action.mapError_eq]
  simp only [Accounts.login_of_name h]
  cases (services.accounts.verdict occasion.now body.username body.password
    (services.accounts.users.findByUsername username s).ending).1 <;> rfl

end SignIn

/-- A request to register. -/
def registering (body : String) : Request where
  method := "POST"
  target := ⟨Text.Utf8.encode "/auth/sign-up", []⟩
  headers := [("content-type", Text.Utf8.encode "application/json")]
  body := Text.Utf8.encode body

end OrderDesk.Api
