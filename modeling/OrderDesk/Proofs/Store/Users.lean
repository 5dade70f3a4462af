/-
What the table of users holds.

Users are only ever added, at the end, and only when nobody has their name or their
address.  So no two users share either, and the number of a user, which is made from the
number of the one before, is the place at which the user stands.  `Admission` says once
how an attempt to add a user can end and what it leaves behind.
-/
import Mathlib.Data.List.Nodup
import OrderDesk.Proofs.Action
import OrderDesk.Store.Memory

namespace OrderDesk

/-- A new user as the table keeps it. -/
def NewUser.row (user : NewUser) (id : UserId) (now : Instant) : User :=
  { id := id
    username := user.username
    email := user.email
    passwordHash := user.passwordHash
    createdAt := now }

namespace Memory.UserTable

/-! ### Who is in the way -/

/-- Nobody in the table has this name or this address. -/
def Free (table : UserTable) (username : Username) (email : Email) : Prop :=
  ∀ u ∈ table.users, u.username ≠ username ∧ u.email ≠ email

theorem isTaken_eq_false_iff {table : UserTable} {user : NewUser} :
    table.isTaken user = false ↔ table.Free user.username user.email := by
  simp [isTaken, Free]

/-! ### Soundness -/

/-- What is true of every table that begins empty. -/
structure Sound (table : UserTable) : Prop where
  names : (table.users.map User.username).Nodup
  addresses : (table.users.map User.email).Nodup
  /-- The users are numbered from one, in the order in which they were added. -/
  numbered : (table.users.map fun u => u.id.value.toInt) =
    (List.range table.users.length).map fun n : Nat => (n : Int) + 1

theorem sound_empty : Sound empty := ⟨List.nodup_nil, List.nodup_nil, rfl⟩

section Sound

variable {table : UserTable}

/-- The last number is the number of users. -/
theorem Sound.lastId_eq (h : Sound table) : table.lastId = table.users.length := by
  rcases List.eq_nil_or_concat table.users with hnil | ⟨before, last, hconcat⟩
  · rw [lastId, hnil]
    rfl
  · have hnumbered := h.numbered
    rw [List.concat_eq_append] at hconcat
    rw [hconcat, List.map_append, List.length_append, List.length_singleton, List.range_succ,
      List.map_append] at hnumbered
    have hlast := List.append_inj_right' hnumbered rfl
    rw [lastId, hconcat, List.getLast?_concat, List.length_append, List.length_singleton]
    simpa using hlast

/-- The number that the next user gets. -/
theorem Sound.toInt_nextId (h : Sound table) (hlt : table.users.length < maxId) :
    (Int32.ofInt (table.lastId + 1)).toInt = table.users.length + 1 := by
  unfold maxId at hlt
  rw [h.lastId_eq, Int32.toInt_ofInt_of_le (by omega) (by omega)]

theorem Sound.eq_of_username (h : Sound table) {u v : User} (hu : u ∈ table.users)
    (hv : v ∈ table.users) (hname : u.username = v.username) : u = v :=
  List.inj_on_of_nodup_map h.names hu hv hname

theorem Sound.eq_of_email (h : Sound table) {u v : User} (hu : u ∈ table.users)
    (hv : v ∈ table.users) (hemail : u.email = v.email) : u = v :=
  List.inj_on_of_nodup_map h.addresses hu hv hemail

/-- No number is larger than the number of users. -/
theorem Sound.id_le (h : Sound table) {u : User} (hu : u ∈ table.users) :
    u.id.value.toInt ≤ table.users.length := by
  have hid := List.mem_map_of_mem (f := fun u : User => u.id.value.toInt) hu
  rw [h.numbered] at hid
  obtain ⟨n, hn, heq⟩ := List.mem_map.mp hid
  have hlt := List.mem_range.mp hn
  omega

/-- A user whose name and address are free can be added under the next number. -/
theorem Sound.add (h : Sound table) {u : User} (hfree : table.Free u.username u.email)
    (hid : u.id.value.toInt = table.users.length + 1) : Sound ⟨table.users ++ [u]⟩ := by
  refine ⟨?_, ?_, ?_⟩
  · rw [List.map_append, List.nodup_append]
    refine ⟨h.names, List.nodup_singleton _, ?_⟩
    intro name hname name' hname'
    obtain ⟨v, hv, rfl⟩ := List.mem_map.mp hname
    rw [List.mem_singleton.mp hname']
    exact (hfree v hv).1
  · rw [List.map_append, List.nodup_append]
    refine ⟨h.addresses, List.nodup_singleton _, ?_⟩
    intro email hemail email' hemail'
    obtain ⟨v, hv, rfl⟩ := List.mem_map.mp hemail
    rw [List.mem_singleton.mp hemail']
    exact (hfree v hv).2
  · rw [List.map_append, h.numbered, List.length_append, List.length_singleton, List.range_succ,
      List.map_append, List.map_singleton, List.map_singleton, hid]

end Sound

/-! ### Adding a user -/

/-- How an attempt to add a user can end, and what it makes of the table.  The error `taken` is
reported when the name or the address is taken. -/
inductive Admission {ε : Type} (taken : ε) (now : Instant) (user : NewUser) (table : UserTable) :
    Ending ε UserId → UserTable → Prop
  | refused (h : ¬table.Free user.username user.email) :
      Admission taken now user table (.failed taken) table
  | added {id : UserId} (hfree : table.Free user.username user.email)
      (hlt : table.users.length < maxId) (hid : id.value.toInt = table.users.length + 1) :
      Admission taken now user table (.done id) ⟨table.users ++ [user.row id now]⟩
  /-- There are no numbers left. -/
  | full (hfree : table.Free user.username user.email) (hfull : ¬table.users.length < maxId) :
      Admission taken now user table .aborted table

theorem admission {table : UserTable} (h : Sound table) (now : Instant) (user : NewUser) :
    Admission (.conflict "username or email already exists") now user table
      ((userStore now).create user table).ending ((userStore now).create user table).state := by
  simp only [userStore, bounded_immediately]
  unfold create
  by_cases htaken : table.isTaken user = true
  · rw [if_pos htaken]
    refine .refused ?_
    intro hfree
    rw [← isTaken_eq_false_iff, htaken] at hfree
    cases hfree
  · have hfree := isTaken_eq_false_iff.mp (Bool.not_eq_true _ ▸ htaken)
    rw [if_neg htaken]
    by_cases hlt : table.users.length < maxId
    · have hlast : table.lastId < maxId := by
        rw [h.lastId_eq]
        exact_mod_cast hlt
      rw [if_pos hlast]
      exact .added hfree hlt (h.toInt_nextId hlt)
    · have hlast : ¬table.lastId < maxId := by
        rw [h.lastId_eq]
        exact_mod_cast hlt
      rw [if_neg hlast]
      exact .full hfree hlt

section Admission

variable {ε ε' : Type} {taken : ε} {now : Instant} {user : NewUser} {table table' : UserTable}
  {ending : Ending ε UserId}

theorem Admission.mapError {x : Action UserTable ε UserId}
    (h : Admission taken now user table (x table).ending (x table).state) (f : ε → ε') :
    Admission (f taken) now user table (x.mapError f table).ending (x.mapError f table).state := by
  unfold Action.mapError
  simp only
  generalize (x table).ending = ending at h ⊢
  generalize (x table).state = table' at h ⊢
  cases h with
  | refused h => exact .refused h
  | added hfree hlt hid => exact .added hfree hlt hid
  | full hfree hfull => exact .full hfree hfull

theorem Admission.sound (h : Admission taken now user table ending table') (hs : Sound table) :
    Sound table' := by
  cases h with
  | refused => exact hs
  | added hfree _ hid => exact hs.add hfree hid
  | full => exact hs

/-- Nobody who is in the table is changed or removed. -/
theorem Admission.isPrefix (h : Admission taken now user table ending table') :
    table.users <+: table'.users := by
  cases h with
  | refused => exact List.prefix_refl _
  | added => exact List.prefix_append _ _
  | full => exact List.prefix_refl _

end Admission

/-! ### Looking a user up -/

theorem findByUsername_of_some {table : UserTable} {username : Username} {u : User}
    (h : table.users.find? (fun v => v.username == username) = some u) (now : Instant) :
    ((userStore now).findByUsername username table).ending = .done u ∧
      ((userStore now).findByUsername username table).state = table := by
  simp only [userStore, bounded_immediately, findByUsername, h]
  exact ⟨rfl, rfl⟩

theorem findByUsername_of_none {table : UserTable} {username : Username}
    (h : table.users.find? (fun v => v.username == username) = none) (now : Instant) :
    ((userStore now).findByUsername username table).ending = .failed .notFound ∧
      ((userStore now).findByUsername username table).state = table := by
  simp only [userStore, bounded_immediately, findByUsername, h]
  exact ⟨rfl, rfl⟩

/-- Looking somebody up changes nothing. -/
theorem state_findByUsername (table : UserTable) (username : Username) (now : Instant) :
    ((userStore now).findByUsername username table).state = table := by
  cases h : table.users.find? fun v => v.username == username with
  | none => exact (findByUsername_of_none h now).2
  | some u => exact (findByUsername_of_some h now).2

end Memory.UserTable

end OrderDesk
