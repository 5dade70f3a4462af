/-
Users as rows.

A new user goes to the database as three texts and comes back, when somebody signs in, as a row
whose texts are read with suspicion.  A row that does not hold a name and an address is reported
as spoilt.  Here it is shown that no row is spoilt that the store itself has written: names and
addresses are written in the form that is read as what it was.

The two statements about users are carried out on a list of rows, which draws numbers from a
sequence and refuses a name or an address that is there already, and any text with a zero
character in it.  The way to the database need not be good.  It may refuse a statement for other
reasons, or break before the statement has been carried out, or after; and whatever comes may
come too late.
-/
import Mathlib.Data.List.Nodup
import OrderDesk.Proofs.Account.Spelling
import OrderDesk.Proofs.Action
import OrderDesk.Proofs.Postgres.Meaning

namespace OrderDesk.Postgres

/-! ### The table of users -/

/-- A row of the table of users. -/
structure Person where
  id : Int32
  username : String
  email : String
  passwordHash : String
  /-- Microseconds since the beginning of 2000. -/
  createdAt : Int
  deriving DecidableEq, Repr

/-- The cells of a row, in the order in which they are asked for. -/
def Person.cells (p : Person) : List Cell :=
  [.int p.id, .text p.username, .text p.email, .text p.passwordHash, .time p.createdAt]

/-- The rows of the table of users, and the last number that was drawn for one. -/
structure People where
  rows : List Person
  lastId : Nat
  deriving DecidableEq, Repr

namespace People

/-- Nobody is there yet. -/
def empty : People := ⟨[], 0⟩

/-- Somebody has this name or this address. -/
def isTaken (db : People) (username email : String) : Bool :=
  db.rows.any fun p => p.username == username || p.email == email

/-- Put in a row under the next number, at the time that the clock shows.  The number is drawn
even if the name or the address is taken. -/
def insert (db : People) (clock : Int) (username email passwordHash : String) :
    Reply × People :=
  if [username, email, passwordHash].any fun s => s.toList.contains '\x00' then
    (.refused "22021" "invalid byte sequence for encoding \"UTF8\": 0x00", db)
  else if db.lastId < Database.maxNumber then
    let drawn := { db with lastId := db.lastId + 1 }
    if db.isTaken username email then
      (.refused uniqueViolation "duplicate key value violates unique constraint", drawn)
    else
      let id := Int32.ofNat (db.lastId + 1)
      (.rows [[.int id]],
        { drawn with rows := db.rows ++ [⟨id, username, email, passwordHash, clock⟩] })
  else (.refused "2200H" "reached maximum value of sequence", db)

/-- The rows with this name. -/
def withName (db : People) (username : String) : List Person :=
  db.rows.filter fun p => p.username == username

/-- What the database answers to a statement about users, and what it holds afterwards.  The texts
of the two statements name the columns in the order of their parameters and of `Person.cells`. -/
def serve (db : People) (clock : Int) (statement : Statement) : Reply × People :=
  match statement, statement.parameters with
  | .createUser _, [.text username, .text email, .text passwordHash] =>
    db.insert clock username email passwordHash
  | .findUser _, [.text username] => (.rows ((db.withName username).map Person.cells), db)
  | _, _ => (.lost, db)

/-- What can come of a statement to which the database has this answer of its own. -/
inductive Comes (db : People) (own : Reply × People) : Reply → People → Prop
  | answered : Comes db own own.1 own.2
  | refused (code message : String) : Comes db own (.refused code message) db
  | lost : Comes db own .lost db
  /-- The statement has been carried out, and then the connection went away. -/
  | lostBehind : Comes db own .lost own.2

end People

/-- A time that can be read back. -/
def IsReadable (clock : Int) : Prop := (instantOfMicros? clock).isSome

instance (clock : Int) : Decidable (IsReadable clock) := by
  unfold IsReadable
  infer_instance

/-- The connection leads to a database with a table of users, though it may fail at any time. -/
def LeadsTo (connection : Connection People) : Prop :=
  ∀ (statement : Statement) (db : People), ∃ clock, IsReadable clock ∧
    People.Comes db (db.serve clock statement) (connection statement db).1
      (connection statement db).2.2

/-- This time the connection does not fail, and the answer is not too late. -/
def Answered (connection : Connection People) (policy : QueryPolicy) (statement : Statement)
    (db : People) : Prop :=
  ∃ clock elapsed, IsReadable clock ∧ elapsed.nanos ≤ policy.timeout.nanos ∧
    connection statement db =
      ((db.serve clock statement).1, some elapsed, (db.serve clock statement).2)

/-! ### Calls -/

/-- A call of the store of users. -/
inductive UserCall where
  | create (user : NewUser)
  | find (name : Username)
  deriving DecidableEq

/-- What a call leaves behind. -/
def UserCall.after {σ : Type} (store : CredentialStore σ) (s : σ) : UserCall → σ
  | create user => (store.create user s).state
  | find name => (store.findByUsername name s).state

/-- What these calls lead to, when nobody is there yet. -/
def filled (connection : Connection People) (policy : QueryPolicy) (calls : List UserCall) :
    People :=
  calls.foldl (UserCall.after (userStore connection policy)) .empty

/-! ### Rows that were written -/

/-- The row was written for this user. -/
structure Person.Holds (p : Person) (user : NewUser) : Prop where
  username : p.username = user.username.text
  email : p.email = user.email.text
  passwordHash : p.passwordHash = user.passwordHash
  createdAt : IsReadable p.createdAt

/-- The user is the one with this number that was added as this new user. -/
structure ReadAs (u : User) (id : UserId) (user : NewUser) : Prop where
  id : u.id = id
  username : u.username = user.username
  email : u.email = user.email
  passwordHash : u.passwordHash = user.passwordHash

/-- **A row that was written for a user is read as that user.** -/
theorem readUser_of_holds {p : Person} {user : NewUser} (h : p.Holds user) :
    ∃ u, readUser p.cells = .ok u ∧ ReadAs u ⟨p.id⟩ user := by
  obtain ⟨t, ht⟩ := Option.isSome_iff_exists.mp h.createdAt
  have htime : readTime (.time p.createdAt) = .ok t := by
    rw [readTime, ht]
  refine ⟨⟨⟨p.id⟩, user.username, user.email, user.passwordHash, t⟩, ?_, rfl, rfl, rfl, rfl⟩
  unfold readUser Person.cells
  rw [h.username, h.email, h.passwordHash]
  simp [readCell, readText, htime, userIdCodec, numberCodec, readInt, Username.parse_text,
    Email.parse_text, Except.mapError, Except.map, bind, Except.bind, pure, Except.pure]

/-- The rows are those of users that these calls were to add, and no two have one name. -/
structure Kept (calls : List UserCall) (db : People) : Prop where
  held : ∀ p ∈ db.rows, ∃ user, .create user ∈ calls ∧ p.Holds user
  names : (db.rows.map Person.username).Nodup

namespace Kept

variable {calls : List UserCall} {db : People} {p : Person} {user : NewUser}

theorem empty : Kept [] .empty := ⟨by simp [People.empty], List.nodup_nil⟩

theorem eq_of_username (h : Kept calls db) {q : Person} (hp : p ∈ db.rows) (hq : q ∈ db.rows)
    (hname : p.username = q.username) : p = q :=
  List.inj_on_of_nodup_map h.names hp hq hname

/-- A row comes first among those of its name. -/
theorem withName_eq (h : Kept calls db) (hp : p ∈ db.rows) :
    ∃ others, db.withName p.username = p :: others := by
  have hmem : p ∈ db.withName p.username :=
    List.mem_filter.mpr ⟨hp, beq_self_eq_true p.username⟩
  cases hrows : db.withName p.username with
  | nil =>
      rw [hrows] at hmem
      cases hmem
  | cons q others =>
      have hq : q ∈ db.withName p.username := hrows ▸ List.mem_cons_self ..
      obtain ⟨hq, hname⟩ := List.mem_filter.mp hq
      exact ⟨others, by rw [h.eq_of_username hp hq (beq_iff_eq.mp hname).symm]⟩

/-- A call that leaves the rows as they are is one more call. -/
theorem same (h : Kept calls db) (call : UserCall) {db' : People} (hrows : db'.rows = db.rows) :
    Kept (calls ++ [call]) db' := by
  refine ⟨?_, hrows ▸ h.names⟩
  intro p hp
  obtain ⟨user, huser, hholds⟩ := h.held p (hrows ▸ hp)
  exact ⟨user, List.mem_append_left _ huser, hholds⟩

/-- A call may add a row of a new name. -/
theorem more (h : Kept calls db) (hp : p.Holds user)
    (hnew : ∀ q ∈ db.rows, q.username ≠ p.username) {db' : People}
    (hrows : db'.rows = db.rows ++ [p]) : Kept (calls ++ [.create user]) db' := by
  refine ⟨?_, ?_⟩
  · intro q hq
    rw [hrows] at hq
    rcases List.mem_append.mp hq with hq | hq
    · obtain ⟨other, hother, hholds⟩ := h.held q hq
      exact ⟨other, List.mem_append_left _ hother, hholds⟩
    · rw [List.mem_singleton.mp hq]
      exact ⟨user, List.mem_append_right _ (List.mem_singleton_self _), hp⟩
  · rw [hrows, List.map_append, List.nodup_append]
    refine ⟨h.names, List.nodup_singleton _, ?_⟩
    intro name hname name' hname'
    obtain ⟨q, hq, rfl⟩ := List.mem_map.mp hname
    rw [List.mem_singleton.mp hname']
    exact hnew q hq

end Kept

/-! ### What a call does -/

/-- A row is put in and its number given back, or the statement is refused. -/
theorem insert_cases (db : People) (clock : Int) (username email passwordHash : String) :
    let own := db.insert clock username email passwordHash
    ((∃ code message, own.1 = .refused code message) ∧ own.2.rows = db.rows) ∨
      ∃ id, own.1 = .rows [[.int id]] ∧
        own.2.rows = db.rows ++ [⟨id, username, email, passwordHash, clock⟩] ∧
        ∀ p ∈ db.rows, p.username ≠ username := by
  unfold People.insert
  dsimp only
  split
  · exact .inl ⟨⟨_, _, rfl⟩, rfl⟩
  split
  · split
    · exact .inl ⟨⟨_, _, rfl⟩, rfl⟩
    · next hfree =>
      refine .inr ⟨_, rfl, rfl, ?_⟩
      intro p hp hname
      refine hfree (List.any_eq_true.mpr ⟨p, hp, ?_⟩)
      rw [hname, beq_self_eq_true, Bool.true_or]
  · exact .inl ⟨⟨_, _, rfl⟩, rfl⟩

/-- Whatever is asked, what comes back is read, or it is too late. -/
theorem ask_cases {α : Type} (connection : Connection People) (policy : QueryPolicy)
    (operation : String) (statement : Statement) (read : Reply → Except StoreError α)
    (db : People) :
    let step := ask connection policy operation statement read db
    (step.ending = .ofExcept (read (connection statement db).1) ∨
        step.ending = .failed (.timeout operation policy.timeout)) ∧
      step.state = (connection statement db).2.2 := by
  have hcases := Action.bounded_cases policy operation
    (fun s => ⟨Action.ofExcept (read (connection statement s).1) (connection statement s).2.2,
      (connection statement s).2.1⟩) db
  rwa [Action.ending_ofExcept, Action.state_ofExcept] at hcases

section Call

variable {connection : Connection People} (policy : QueryPolicy) {calls : List UserCall}
  {db : People}

/-- A new user is added as one row, or not at all, and whoever learns a number learns that of
the row. -/
theorem create_cases (h : LeadsTo connection) (user : NewUser) (db : People) :
    let step := (userStore connection policy).create user db
    (step.state.rows = db.rows ∧ ∀ id, step.ending ≠ .done id) ∨
      ∃ p : Person, p.Holds user ∧ step.state.rows = db.rows ++ [p] ∧
        (∀ q ∈ db.rows, q.username ≠ p.username) ∧
        ∀ id, step.ending = .done id → id = ⟨p.id⟩ := by
  intro step
  let read : Reply → Except StoreError UserId :=
    ofRows conflictOrDatabase (readFirst userIdCodec.decode)
  obtain ⟨hending, hstate⟩ :=
    ask_cases connection policy Operation.createUser (.createUser user) read db
  obtain ⟨clock, hclock, hcomes⟩ := h (.createUser user) db
  -- whoever learns a number has got it from the answer
  have hdone : ∀ {id}, step.ending = .done id →
      .ofExcept (read (connection (.createUser user) db).1) = Ending.done id := by
    intro id hdone
    obtain hread | hlate := hending
    · exact hread.symm.trans hdone
    · cases hlate.symm.trans hdone
  have hserve : db.serve clock (.createUser user) =
      db.insert clock user.username.text user.email.text user.passwordHash := rfl
  have hinsert := insert_cases db clock user.username.text user.email.text user.passwordHash
  show (step.state.rows = _ ∧ _) ∨ _
  rw [show step.state = _ from hstate]
  rw [hserve] at hcomes
  generalize connection (.createUser user) db = got at hcomes hdone
  obtain ⟨reply, elapsed, after⟩ := got
  cases hcomes with
  | answered =>
      obtain ⟨⟨code, message, hreply⟩, hrows⟩ | ⟨number, hreply, hrows, hnew⟩ := hinsert
      · rw [hreply] at hdone
        exact .inl ⟨hrows, fun id hid => nomatch hdone hid⟩
      · rw [hreply] at hdone
        refine .inr ⟨_, ⟨rfl, rfl, rfl, hclock⟩, hrows, hnew, ?_⟩
        intro id hid
        cases hdone hid
        rfl
  | refused code message =>
      exact .inl ⟨rfl, fun id hid => nomatch hdone hid⟩
  | lost =>
      exact .inl ⟨rfl, fun id hid => nomatch hdone hid⟩
  | lostBehind =>
      obtain ⟨-, hrows⟩ | ⟨number, -, hrows, hnew⟩ := hinsert
      · exact .inl ⟨hrows, fun id hid => nomatch hdone hid⟩
      · exact .inr ⟨_, ⟨rfl, rfl, rfl, hclock⟩, hrows, hnew, fun id hid => nomatch hdone hid⟩

/-- What a search reads from the rows of a name. -/
def People.search (db : People) (name : Username) : Except StoreError User :=
  readOptional readUser ((db.withName name.text).map Person.cells)

/-- The database has failed, which says nothing about what it holds. -/
def IsBreakdown (e : StoreError) : Prop :=
  (∃ cause, e = .database cause) ∨ ∃ operation limit, e = .timeout operation limit

theorem IsBreakdown.ne_notFound {e : StoreError} (h : IsBreakdown e) : e ≠ .notFound := by
  obtain ⟨_, rfl⟩ | ⟨_, _, rfl⟩ := h <;> exact nofun

theorem IsBreakdown.ne_dataCorruption {e : StoreError} (h : IsBreakdown e) (report : String) :
    e ≠ .dataCorruption report := by
  obtain ⟨_, rfl⟩ | ⟨_, _, rfl⟩ := h <;> exact nofun

/-- A search changes nothing, and it reads the rows of the name or the database fails. -/
theorem find_cases (h : LeadsTo connection) (name : Username) (db : People) :
    let step := (userStore connection policy).findByUsername name db
    step.state = db ∧
      (step.ending = .ofExcept (db.search name) ∨
        ∃ e, step.ending = .failed e ∧ IsBreakdown e) := by
  intro step
  let read : Reply → Except StoreError User := ofRows .database (readOptional readUser)
  obtain ⟨hending, hstate⟩ :=
    ask_cases connection policy Operation.findByUsername (.findUser name) read db
  obtain ⟨clock, -, hcomes⟩ := h (.findUser name) db
  replace hending : step.ending = _ ∨ step.ending = _ := hending
  replace hstate : step.state = _ := hstate
  generalize connection (.findUser name) db = got at hcomes hending hstate
  obtain ⟨reply, elapsed, after⟩ := got
  obtain hread | hlate := hending
  · cases hcomes with
    | answered => exact ⟨hstate, .inl hread⟩
    | refused code message => exact ⟨hstate, .inr ⟨_, hread, .inl ⟨_, rfl⟩⟩⟩
    | lost => exact ⟨hstate, .inr ⟨_, hread, .inl ⟨_, rfl⟩⟩⟩
    | lostBehind => exact ⟨hstate, .inr ⟨_, hread, .inl ⟨_, rfl⟩⟩⟩
  · refine ⟨?_, .inr ⟨_, hlate, .inr ⟨_, _, rfl⟩⟩⟩
    cases hcomes <;> exact hstate

/-- A search that is answered in time reads the rows. -/
theorem find_of_answered {policy : QueryPolicy} {name : Username}
    (h : Answered connection policy (.findUser name) db) :
    ((userStore connection policy).findByUsername name db).ending =
      .ofExcept (db.search name) := by
  obtain ⟨clock, elapsed, -, hle, hgot⟩ := h
  let read : Reply → Except StoreError User := ofRows .database (readOptional readUser)
  have hstep : ((userStore connection policy).findByUsername name db).ending =
      (Action.ofExcept (read (db.serve clock (.findUser name)).1) db).ending := by
    refine (Action.bounded_in_time ?_ hle Operation.findByUsername).1
    simp only [hgot]
    rfl
  rw [hstep, Action.ending_ofExcept]
  rfl

/-- The rows are still there, and perhaps one more. -/
theorem rows_after (h : LeadsTo connection) (call : UserCall) (db : People) :
    db.rows <+: (call.after (userStore connection policy) db).rows := by
  cases call with
  | create user =>
      obtain ⟨hrows, -⟩ | ⟨p, -, hrows, -⟩ := create_cases policy h user db
      · exact hrows ▸ List.prefix_rfl
      · exact ⟨[p], hrows.symm⟩
  | find name =>
      have hstate := (find_cases policy h name db).1
      exact congrArg People.rows hstate ▸ List.prefix_rfl

/-- One more call adds nothing but its own user. -/
theorem Kept.after (hkept : Kept calls db) (h : LeadsTo connection) (call : UserCall) :
    Kept (calls ++ [call]) (call.after (userStore connection policy) db) := by
  cases call with
  | create user =>
      obtain ⟨hrows, -⟩ | ⟨p, hp, hrows, hnew, -⟩ := create_cases policy h user db
      · exact hkept.same _ hrows
      · exact hkept.more hp hnew hrows
  | find name =>
      exact hkept.same _ (congrArg People.rows (find_cases policy h name db).1)

end Call

/-! ### What has been added is found -/

namespace Kept

variable {calls : List UserCall} {db : People}

/-- A row is found by the name of the user that it was written for, and read as that user. -/
theorem search_of_mem (h : Kept calls db) {p : Person} {user : NewUser} (hp : p ∈ db.rows)
    (hholds : p.Holds user) : ∃ u, db.search user.username = .ok u ∧ ReadAs u ⟨p.id⟩ user := by
  obtain ⟨others, hrows⟩ := h.withName_eq hp
  obtain ⟨u, hu, hread⟩ := readUser_of_holds hholds
  refine ⟨u, ?_, hread⟩
  rw [People.search, ← hholds.username, hrows, List.map_cons, readOptional, hu]

/-- A search finds nobody, or somebody of that name who was to be added. -/
theorem search_cases (h : Kept calls db) (name : Username) :
    db.search name = .error .notFound ∨
      ∃ u user, db.search name = .ok u ∧ u.username = name ∧ .create user ∈ calls ∧
        ReadAs u u.id user := by
  cases hrows : db.withName name.text with
  | nil =>
      left
      rw [People.search, hrows, List.map_nil, readOptional]
  | cons p others =>
      right
      have hmem : p ∈ db.withName name.text := hrows ▸ List.mem_cons_self ..
      obtain ⟨hp, hname⟩ := List.mem_filter.mp hmem
      obtain ⟨user, huser, hholds⟩ := h.held p hp
      obtain rfl : user.username = name :=
        Username.eq_of_text (hholds.username.symm.trans (beq_iff_eq.mp hname))
      obtain ⟨u, hu, hread⟩ := h.search_of_mem hp hholds
      exact ⟨u, user, hu, hread.username, huser,
        rfl, hread.username, hread.email, hread.passwordHash⟩

end Kept

section Run

variable {connection : Connection People} (policy : QueryPolicy) {calls : List UserCall}
  {db : People}

/-- Every row was written for somebody who was to be added. -/
theorem Kept.foldl (hkept : Kept calls db) (h : LeadsTo connection) (later : List UserCall) :
    Kept (calls ++ later) (later.foldl (UserCall.after (userStore connection policy)) db) := by
  induction later generalizing calls db with
  | nil => rwa [List.append_nil]
  | cons call later ih =>
      rw [List.foldl_cons, List.append_cons]
      exact ih (hkept.after policy h call)

/-- No row goes away. -/
theorem rows_foldl (h : LeadsTo connection) (later : List UserCall) (db : People) :
    db.rows <+: (later.foldl (UserCall.after (userStore connection policy)) db).rows := by
  induction later generalizing db with
  | nil => exact List.prefix_rfl
  | cons call later ih => exact (rows_after policy h call db).trans (ih _)

theorem kept_filled (h : LeadsTo connection) (calls : List UserCall) :
    Kept calls (filled connection policy calls) :=
  Kept.empty.foldl policy h calls

/-- A search for a name after these calls finds nothing spoilt, and only somebody of that name
who was to be added. -/
structure Unspoilt (calls : List UserCall) (name : Username) (ending : Ending StoreError User) :
    Prop where
  sound : ∀ report, ending ≠ .failed (.dataCorruption report)
  added : ∀ u, ending = .done u →
    u.username = name ∧ ∃ user, .create user ∈ calls ∧ ReadAs u u.id user

/-- **Nothing that the store has written is spoilt when it is read.** -/
theorem unspoilt (h : LeadsTo connection) (calls : List UserCall) (name : Username) :
    Unspoilt calls name ((userStore connection policy).findByUsername name
      (filled connection policy calls)).ending := by
  obtain ⟨-, hread | ⟨e, hfailed, hbroken⟩⟩ :=
    find_cases policy h name (filled connection policy calls)
  · rw [hread]
    obtain hnobody | ⟨u, user, hfound, hname, huser, hu⟩ :=
      (kept_filled policy h calls).search_cases name
    · rw [hnobody]
      exact ⟨fun _ => nofun, fun _ => nofun⟩
    · rw [hfound]
      refine ⟨fun _ => nofun, ?_⟩
      rintro _ ⟨⟩
      exact ⟨hname, user, huser, hu⟩
  · rw [hfailed]
    refine ⟨?_, fun _ => nofun⟩
    rintro report ⟨⟩
    exact hbroken.ne_dataCorruption report rfl

/-- A search does not miss the user who was added under this number, and reads nothing else. -/
structure Returns (id : UserId) (user : NewUser) (ending : Ending StoreError User) : Prop where
  there : ending ≠ .failed .notFound
  same : ∀ u, ending = .done u → ReadAs u id user

/-- **Whoever was added is found as what they were, whatever is done later.** -/
theorem returns (h : LeadsTo connection) (before later : List UserCall) {user : NewUser}
    {id : UserId}
    (hdone : ((userStore connection policy).create user
      (filled connection policy before)).ending = .done id) :
    let db := filled connection policy (before ++ .create user :: later)
    let search := (userStore connection policy).findByUsername user.username db
    Returns id user search.ending ∧
      (Answered connection policy (.findUser user.username) db → ∃ u, search.ending = .done u) := by
  intro db search
  have hdb : db = later.foldl (UserCall.after (userStore connection policy))
      ((userStore connection policy).create user (filled connection policy before)).state := by
    show (before ++ .create user :: later).foldl _ _ = _
    rw [List.foldl_append, List.foldl_cons]
    rfl
  obtain ⟨-, hnone⟩ | ⟨p, hholds, hrows, -, hid⟩ :=
    create_cases policy h user (filled connection policy before)
  · exact absurd hdone (hnone id)
  obtain rfl := hid id hdone
  have hp : p ∈ db.rows := by
    refine (hdb ▸ rows_foldl policy h later _).subset ?_
    rw [hrows]
    exact List.mem_append_right _ (List.mem_singleton_self p)
  obtain ⟨u, hfound, hu⟩ := (kept_filled policy h _).search_of_mem hp hholds
  refine ⟨?_, fun hanswered => ⟨u, ?_⟩⟩
  · obtain ⟨-, hread | ⟨e, hfailed, hbroken⟩⟩ := find_cases policy h user.username db
    · rw [hread, hfound]
      refine ⟨nofun, ?_⟩
      rintro _ ⟨⟩
      exact hu
    · rw [hfailed]
      refine ⟨?_, fun _ => nofun⟩
      rintro ⟨⟩
      exact hbroken.ne_notFound rfl
  · rw [find_of_answered hanswered, hfound, Ending.ofExcept]

end Run

end OrderDesk.Postgres
