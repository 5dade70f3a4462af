/-
Registrations.

A registration first judges what was asked for, then makes the password ready to be
stored, and then adds the user.  What was asked for is either valid, or there is a first
thing wrong with it, which is what a registration reports.  Only the last step looks at
the table, and what it does there is known from the table of users.

A `Ledger` is a row of registrations, one after another, with how each has ended.  It
agrees with the table of users: every user was registered by a registration that is
recorded as successful, and whoever was successful is still there.
-/
import Mathlib.Data.List.Induction
import OrderDesk.Proofs.Account.Spelling
import OrderDesk.Proofs.Store.Users
import OrderDesk.Service.Accounts

namespace OrderDesk.Accounts

open OrderDesk.Memory

/-! ### What is asked for -/

/-- The application asks for this name and this address, with a password that is long enough. -/
structure Application.Valid (a : Application) (username : Username) (email : Email) : Prop where
  username : Username.parse a.username = .ok username
  email : Email.parse a.email = .ok email
  password : 6 ≤ a.password.length

/-- The first thing that is wrong with an application: the name, then the address, then the
password. -/
inductive Application.Fault (a : Application) : AuthError → Prop
  | username {cause : UsernameError} (h : Username.parse a.username = .error cause) :
      Fault a (.invalidUsername cause)
  | email {username : Username} {cause : EmailError}
      (husername : Username.parse a.username = .ok username)
      (h : Email.parse a.email = .error cause) : Fault a (.invalidEmail cause)
  | password {username : Username} {email : Email}
      (husername : Username.parse a.username = .ok username)
      (hemail : Email.parse a.email = .ok email) (h : a.password.length < 6) :
      Fault a (.weakPassword "password must be at least 6 characters")

/-- The part of a registration that comes before the password is made ready. -/
def judge (a : Application) : Except AuthError (Username × Email) :=
  match Username.parse a.username with
  | .error e => .error (.invalidUsername e)
  | .ok username =>
    match Email.parse a.email with
    | .error e => .error (.invalidEmail e)
    | .ok email =>
      if Password.isStrong a.password then .ok (username, email)
      else .error (.weakPassword Password.tooShortMessage)

section Judge

variable {a : Application} {username username' : Username} {email email' : Email}
  {e e' : AuthError}

theorem judge_of_valid (h : a.Valid username email) : judge a = .ok (username, email) := by
  unfold judge
  simp only [h.username, h.email]
  exact if_pos (decide_eq_true h.password)

theorem judge_of_fault (h : a.Fault e) : judge a = .error e := by
  unfold judge
  cases h with
  | username hcause => simp only [hcause]
  | email husername hcause => simp only [husername, hcause]
  | password husername hemail hlt =>
      simp only [husername, hemail]
      refine if_neg ?_
      intro hstrong
      exact absurd (of_decide_eq_true hstrong) (Nat.not_le_of_lt hlt)

/-- An application is valid, or there is something wrong with it. -/
theorem valid_or_fault (a : Application) :
    (∃ username email, a.Valid username email) ∨ ∃ e, a.Fault e := by
  cases husername : Username.parse a.username with
  | error cause => exact Or.inr ⟨_, .username husername⟩
  | ok username =>
      cases hemail : Email.parse a.email with
      | error cause => exact Or.inr ⟨_, .email husername hemail⟩
      | ok email =>
          by_cases hle : 6 ≤ a.password.length
          · exact Or.inl ⟨username, email, husername, hemail, hle⟩
          · exact Or.inr ⟨_, .password husername hemail (Nat.lt_of_not_le hle)⟩

theorem Application.Valid.unique (h : a.Valid username email) (h' : a.Valid username' email') :
    username = username' ∧ email = email' := by
  injection (judge_of_valid h).symm.trans (judge_of_valid h') with hparts
  injection hparts with husername hemail
  exact ⟨husername, hemail⟩

theorem Application.Valid.not_fault (h : a.Valid username email) : ¬a.Fault e := by
  intro hfault
  cases (judge_of_valid h).symm.trans (judge_of_fault hfault)

theorem Application.Fault.unique (h : a.Fault e) (h' : a.Fault e') : e = e' := by
  injection (judge_of_fault h).symm.trans (judge_of_fault h')

end Judge

/-- A valid application with the password made ready. -/
def accepted (passwords : PasswordScheme) (salt : List UInt8) (password : String)
    (username : Username) (email : Email) : NewUser :=
  { username := username
    email := email
    passwordHash := passwords.hash salt password }

/-- Judging and making the password ready is what a registration begins with. -/
theorem prepare_eq (passwords : PasswordScheme) (salt : List UInt8) (a : Application) :
    prepare passwords salt a =
      (judge a).map fun p => accepted passwords salt a.password p.1 p.2 := by
  unfold prepare judge
  cases Username.parse a.username with
  | error cause => rfl
  | ok username =>
      cases Email.parse a.email with
      | error cause => rfl
      | ok email =>
          by_cases hstrong : Password.isStrong a.password = true
          · simp only [if_pos hstrong]
            rfl
          · simp only [if_neg hstrong]
            rfl

/-! ### One registration -/

section Register

variable {σ : Type} {a : Application} {username : Username} {email : Email} {e : AuthError}

/-- Whoever asks for something invalid learns the first fault, and nothing is done. -/
theorem register_of_fault (h : a.Fault e) (service : Accounts σ) (salt : List UInt8) (s : σ) :
    service.register salt a s = ⟨.failed e, [], s⟩ := by
  unfold register
  rw [prepare_eq, judge_of_fault h]
  rfl

/-- For who asks for something valid, what the store does decides. -/
theorem register_eq (h : a.Valid username email) (service : Accounts σ) (salt : List UInt8)
    (s : σ) :
    service.register salt a s =
      let call := service.users.create (accepted service.passwords salt a.password username email) s
      ⟨call.ending.mapError ofCreateError,
        call.log ++ Action.announced registeredEntry call.ending, call.state⟩ := by
  unfold register
  rw [prepare_eq, judge_of_valid h]
  exact Action.reported _ ofCreateError registeredEntry s

theorem register_of_valid (h : a.Valid username email) (service : Accounts σ)
    (salt : List UInt8) (s : σ) :
    let step := (service.users.create
      (accepted service.passwords salt a.password username email)).mapError ofCreateError s
    (service.register salt a s).ending = step.ending ∧
      (service.register salt a s).state = step.state := by
  rw [register_eq h, Action.mapError_eq]
  exact ⟨rfl, rfl⟩

end Register

/-! ### Registrations in memory -/

/-- Somebody asks to be registered at some time, and these random bytes are drawn. -/
structure Visit where
  now : Instant
  salt : List UInt8
  application : Application
  deriving DecidableEq

/-- A registration that was made, and how it ended. -/
structure Record where
  visit : Visit
  ending : Ending AuthError UserId
  deriving DecidableEq

/-- The registrations that were made so far, earliest first, and the table they have led to. -/
structure Ledger where
  records : List Record
  table : UserTable

/-- What the service works with at some time, when it keeps the users in memory. -/
def inMemory (passwords : PasswordScheme) (signingKey : String) (now : Instant) :
    Accounts UserTable :=
  { users := userStore now
    passwords := passwords
    signingKey := signingKey }

namespace Ledger

/-- Nobody has asked yet. -/
def start : Ledger := ⟨[], .empty⟩

section Run

variable (passwords : PasswordScheme) (signingKey : String)

/-- Make one more registration. -/
def next (ledger : Ledger) (v : Visit) : Ledger :=
  let step := (inMemory passwords signingKey v.now).register v.salt v.application ledger.table
  ⟨ledger.records ++ [⟨v, step.ending⟩], step.state⟩

/-- Make these registrations one after another, and no others. -/
def of (visits : List Visit) : Ledger := visits.foldl (next passwords signingKey) start

theorem of_snoc (visits : List Visit) (v : Visit) :
    of passwords signingKey (visits ++ [v]) =
      (of passwords signingKey visits).next passwords signingKey v := by
  rw [of, List.foldl_append]
  rfl

theorem visits_of (visits : List Visit) :
    (of passwords signingKey visits).records.map Record.visit = visits := by
  induction visits using List.reverseRecOn with
  | nil => rfl
  | append_singleton visits v ih =>
      rw [of_snoc, next, List.map_append, ih]
      rfl

end Run

end Ledger

/-- The user is the one that this registration has led to. -/
structure Record.Made (passwords : PasswordScheme) (r : Record) (u : User) : Prop where
  ending : r.ending = .done u.id
  valid : r.visit.application.Valid u.username u.email
  passwordHash : u.passwordHash = passwords.hash r.visit.salt r.visit.application.password

/-- The records and the table tell the same. -/
structure Ledger.Kept (passwords : PasswordScheme) (ledger : Ledger) : Prop where
  sound : ledger.table.Sound
  /-- Every user was registered. -/
  registered : ∀ u ∈ ledger.table.users, ∃ r ∈ ledger.records, r.Made passwords u
  /-- Whoever was registered is still there. -/
  there : ∀ r ∈ ledger.records, ∀ id, r.ending = .done id →
    ∃ u ∈ ledger.table.users, r.Made passwords u

/-- A valid registration is an attempt to add a user. -/
theorem admission_of_valid (passwords : PasswordScheme) (signingKey : String) {a : Application}
    {username : Username} {email : Email} (h : a.Valid username email) {table : UserTable}
    (hs : table.Sound) (salt : List UInt8) (now : Instant) :
    let step := (inMemory passwords signingKey now).register salt a table
    UserTable.Admission .userAlreadyExists now (accepted passwords salt a.password username email)
      table step.ending step.state := by
  obtain ⟨hending, hstate⟩ := register_of_valid h (inMemory passwords signingKey now) salt table
  intro step
  rw [hending, hstate]
  exact (UserTable.admission hs now _).mapError ofCreateError

section Kept

variable {passwords : PasswordScheme}

/-- A registration that has not led to a user leaves the records and the table in agreement. -/
theorem Ledger.Kept.unchanged {ledger : Ledger} (h : ledger.Kept passwords) {r : Record}
    (hr : ∀ id, r.ending ≠ .done id) :
    Ledger.Kept passwords ⟨ledger.records ++ [r], ledger.table⟩ := by
  refine ⟨h.sound, ?_, ?_⟩
  · intro u hu
    obtain ⟨r', hr', hmade⟩ := h.registered u hu
    exact ⟨r', List.mem_append_left _ hr', hmade⟩
  · intro r' hr' id hid
    rcases List.mem_append.mp hr' with hold | hnew
    · exact h.there r' hold id hid
    · rw [List.mem_singleton.mp hnew] at hid
      exact absurd hid (hr id)

/-- A registration that has led to a new user does so too. -/
theorem Ledger.Kept.extended {ledger : Ledger} (h : ledger.Kept passwords) {r : Record} {u : User}
    (hmade : r.Made passwords u) (hfree : ledger.table.Free u.username u.email)
    (hid : u.id.value.toInt = ledger.table.users.length + 1) :
    Ledger.Kept passwords ⟨ledger.records ++ [r], ⟨ledger.table.users ++ [u]⟩⟩ := by
  refine ⟨h.sound.add hfree hid, ?_, ?_⟩
  · intro u' hu'
    rcases List.mem_append.mp hu' with hold | hnew
    · obtain ⟨r', hr', hmade'⟩ := h.registered u' hold
      exact ⟨r', List.mem_append_left _ hr', hmade'⟩
    · rw [List.mem_singleton.mp hnew]
      exact ⟨r, List.mem_append_right _ (List.mem_singleton_self r), hmade⟩
  · intro r' hr' id hdone
    rcases List.mem_append.mp hr' with hold | hnew
    · obtain ⟨u', hu', hmade'⟩ := h.there r' hold id hdone
      exact ⟨u', List.mem_append_left _ hu', hmade'⟩
    · rw [List.mem_singleton.mp hnew]
      exact ⟨u, List.mem_append_right _ (List.mem_singleton_self u), hmade⟩

theorem Ledger.Kept.next {ledger : Ledger} (h : ledger.Kept passwords) (signingKey : String)
    (v : Visit) : (ledger.next passwords signingKey v).Kept passwords := by
  unfold Ledger.next
  simp only
  rcases valid_or_fault v.application with ⟨username, email, hvalid⟩ | ⟨e, hfault⟩
  · have hadmission :=
      admission_of_valid passwords signingKey hvalid h.sound v.salt v.now
    simp only at hadmission
    generalize (inMemory passwords signingKey v.now).register v.salt v.application
      ledger.table = step at hadmission ⊢
    generalize step.ending = ending at hadmission ⊢
    generalize step.state = table' at hadmission ⊢
    cases hadmission with
    | refused => exact h.unchanged fun id hdone => nomatch hdone
    | added hfree _ hid => exact h.extended ⟨rfl, hvalid, rfl⟩ hfree hid
    | full => exact h.unchanged fun id hdone => nomatch hdone
  · rw [register_of_fault hfault]
    exact h.unchanged fun id hdone => nomatch hdone

theorem Ledger.kept_of (passwords : PasswordScheme) (signingKey : String) (visits : List Visit) :
    (Ledger.of passwords signingKey visits).Kept passwords := by
  induction visits using List.reverseRecOn with
  | nil => exact ⟨UserTable.sound_empty, (fun _ hu => nomatch hu), fun _ hr => nomatch hr⟩
  | append_singleton visits v ih =>
      rw [Ledger.of_snoc]
      exact ih.next signingKey v

end Kept

/-- A scheme that stores passwords as they are. -/
def plain : PasswordScheme :=
  ⟨fun _ password => password, fun stored password => stored == password⟩

end OrderDesk.Accounts
