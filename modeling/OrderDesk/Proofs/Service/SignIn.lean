/-
Registration, signing in and recognition agree.

Who signs in is looked up by the name that is read from what was typed, and the password
is checked against the text that registration has stored.  The ledger of registrations
says which users there are, and a name is read in the same way at both places.  So exactly
those sign in who were registered under that name with that password, and the token that
they get is recognised as theirs until it expires.

What a stored text accepts is left to the scheme for passwords.  It is assumed to be
`Exact` for the registrations in question.
-/
import OrderDesk.Proofs.Bearer.Lifetime
import OrderDesk.Proofs.Service.Registration

namespace OrderDesk.Accounts

open OrderDesk.Memory
open OrderDesk.Text

/-! ### Who can sign in -/

/-- What these registrations have stored accepts the password that was given there, and no
other. -/
def Exact (passwords : PasswordScheme) (visits : List Visit) : Prop :=
  ∀ v ∈ visits, ∀ password,
    passwords.accepts (passwords.hash v.salt v.application.password) password = true ↔
      password = v.application.password

/-- The registration was successful, and it was made with this password under a name that is
this text without the blanks around it. -/
structure Record.Admits (r : Record) (name password : String) (id : UserId) : Prop where
  ending : r.ending = .done id
  name : trimmed r.visit.application.username = trimmed name
  password : r.visit.application.password = password

/-- Some registration was successful with this password under this name. -/
def Ledger.Admits (ledger : Ledger) (name password : String) : Prop :=
  ∃ r ∈ ledger.records, ∃ id, r.Admits name password id

/-- The user has this name, and the password is accepted. -/
structure Knows (passwords : PasswordScheme) (u : User) (name password : String) : Prop where
  name : Username.parse name = .ok u.username
  password : passwords.accepts u.passwordHash password = true

section Ledger

variable {passwords : PasswordScheme} {signingKey : String} {visits : List Visit}
  {name password : String} {u : User} {r : Record} {id : UserId}

/-- A user can sign in with the name and the password of a successful registration. -/
theorem user_of_admits (hexact : Exact passwords visits)
    (hr : r ∈ (Ledger.of passwords signingKey visits).records) (h : r.Admits name password id) :
    ∃ u ∈ (Ledger.of passwords signingKey visits).table.users,
      Knows passwords u name password ∧ u.id = id := by
  obtain ⟨u, hu, hmade⟩ := (Ledger.kept_of passwords signingKey visits).there r hr id h.ending
  refine ⟨u, hu, ⟨?_, ?_⟩, ?_⟩
  · rw [← Username.parse_congr h.name]
    exact hmade.valid.username
  · have hvisit := List.mem_map_of_mem (f := Record.visit) hr
    rw [Ledger.visits_of] at hvisit
    rw [hmade.passwordHash, hexact _ hvisit]
    exact h.password.symm
  · injection hmade.ending.symm.trans h.ending

/-- Who can sign in was registered with that name and that password. -/
theorem admits_of_user (hexact : Exact passwords visits)
    (hu : u ∈ (Ledger.of passwords signingKey visits).table.users)
    (h : Knows passwords u name password) :
    (Ledger.of passwords signingKey visits).Admits name password := by
  obtain ⟨r, hr, hmade⟩ := (Ledger.kept_of passwords signingKey visits).registered u hu
  refine ⟨r, hr, u.id, hmade.ending, ?_, ?_⟩
  · rw [← Username.text_of_parse hmade.valid.username, Username.text_of_parse h.name]
  · have hvisit := List.mem_map_of_mem (f := Record.visit) hr
    rw [Ledger.visits_of] at hvisit
    have haccepts := h.password
    rw [hmade.passwordHash, hexact _ hvisit] at haccepts
    exact haccepts.symm

end Ledger

/-! ### Looking somebody up -/

/-- A store knows these users by their names, and looking one up changes nothing. -/
structure Holds {σ : Type} (store : CredentialStore σ) (s : σ)
    (known : Username → Option User) : Prop where
  found : ∀ name u, known name = some u → (store.findByUsername name s).ending = .done u
  unknown : ∀ name, known name = none → (store.findByUsername name s).ending = .failed .notFound
  state : ∀ name, (store.findByUsername name s).state = s

/-- The users of a table by their names. -/
def knownIn (table : UserTable) (name : Username) : Option User :=
  table.users.find? fun u => u.username == name

/-- A table knows the users that are in it. -/
theorem holds_table (table : UserTable) (now : Instant) :
    Holds (userStore now) table (knownIn table) where
  found _ _ h := (UserTable.findByUsername_of_some h now).1
  unknown _ h := (UserTable.findByUsername_of_none h now).1
  state name := UserTable.state_findByUsername table name now

/-- The user whom a text names, among those who are known. -/
def named (known : Username → Option User) (name : String) : Option User :=
  (Username.parse name).toOption.bind known

/-- What a store has found out about a name.  Only that there is no such user is an answer; any
other error is passed on. -/
def found : Ending StoreError User → Ending AuthError (Option User)
  | .done u => .done (some u)
  | .failed .notFound => .done none
  | .failed e => .failed (.store e)
  | .aborted => .aborted

section Login

variable {σ : Type}

/-- What comes of signing in once a store has been asked for the user, and what is written. -/
def verdict (service : Accounts σ) (now : Instant) (name password : String) :
    Ending StoreError User → Ending AuthError Bearer.Issued × List LogEntry
  | .done u =>
    if service.passwords.accepts u.passwordHash password then
      match Bearer.issue service.signingKey u.id now with
      | some issued => (.done issued, [signedInEntry u.id])
      | none => (.aborted, [])
    else (.failed .invalidCredentials, [wrongPasswordEntry u.id])
  | .failed .notFound => (.failed .invalidCredentials, [unknownUserEntry name])
  | .failed e => (.failed (.store e), [])
  | .aborted => (.aborted, [])

variable {service : Accounts σ} {s : σ} {name password : String} {username : Username}

theorem lookUp_of_name (h : Username.parse name = .ok username) :
    service.lookUp name s =
      ⟨found (service.users.findByUsername username s).ending,
        (service.users.findByUsername username s).log,
        (service.users.findByUsername username s).state⟩ := by
  simp only [lookUp, h]
  cases hcall : (service.users.findByUsername username s).ending with
  | done u =>
      rw [Action.bind_of_done (Action.attempt_of_done hcall)]
      exact congrArg (Step.mk _ · _) (List.append_nil _)
  | failed e =>
      rw [Action.bind_of_done (Action.attempt_of_failed hcall)]
      cases e <;> exact congrArg (Step.mk _ · _) (List.append_nil _)
  | aborted => rw [Action.bind_of_aborted (Action.attempt_of_aborted hcall)]; rfl

/-- A text that is no name is nobody's, and the store is not asked. -/
theorem login_of_noName {cause : UsernameError} (h : Username.parse name = .error cause)
    (now : Instant) :
    service.login now name password s =
      ⟨.failed .invalidCredentials, [unknownUserEntry name], s⟩ := by
  unfold login lookUp
  rw [h]
  rfl

/-- **Signing in is one call of the store.**  It leads where the call leads, and what comes back
from it decides. -/
theorem login_of_name (h : Username.parse name = .ok username) (now : Instant) :
    service.login now name password s =
      let call := service.users.findByUsername username s
      let verdict := service.verdict now name password call.ending
      ⟨verdict.1, call.log ++ verdict.2, call.state⟩ := by
  have hlookUp : service.lookUp name s = _ := lookUp_of_name h
  unfold login
  dsimp only
  cases hcall : (service.users.findByUsername username s).ending with
  | done u =>
      rw [hcall] at hlookUp
      rw [Action.bind_of_done (congrArg Step.ending hlookUp), hlookUp]
      by_cases haccepts : service.passwords.accepts u.passwordHash password = true
      · simp only [verdict, if_pos haccepts, issue]
        cases Bearer.issue service.signingKey u.id now <;> rfl
      · simp only [verdict, if_neg haccepts]
        rfl
  | failed e =>
      rw [hcall] at hlookUp
      cases e with
      | notFound =>
          rw [Action.bind_of_done (congrArg Step.ending hlookUp), hlookUp]
          rfl
      | database | dataCorruption | conflict | timeout =>
          rw [Action.bind_of_failed (congrArg Step.ending hlookUp), hlookUp]
          exact congrArg (Step.mk _ · _) (List.append_nil _).symm
  | aborted =>
      rw [hcall] at hlookUp
      rw [Action.bind_of_aborted (congrArg Step.ending hlookUp), hlookUp]
      exact congrArg (Step.mk _ · _) (List.append_nil _).symm

end Login

/-- Who is not known, or does not know the password, fails to sign in. -/
theorem login_of_stranger {σ : Type} {service : Accounts σ} {s : σ}
    {known : Username → Option User} (h : Holds service.users s known) {name password : String}
    (hstranger : ∀ u, named known name = some u →
      service.passwords.accepts u.passwordHash password = false) (now : Instant) :
    (service.login now name password s).ending = .failed .invalidCredentials ∧
      (service.login now name password s).state = s := by
  cases hname : Username.parse name with
  | error cause =>
      rw [login_of_noName hname]
      exact ⟨rfl, rfl⟩
  | ok username =>
      rw [named, hname] at hstranger
      cases hknown : known username with
      | none =>
          rw [login_of_name hname]
          simp only [h.unknown username hknown, h.state username, verdict, and_self]
      | some u =>
          rw [login_of_name hname]
          simp only [h.found username u hknown, h.state username, verdict,
            if_neg (Bool.eq_false_iff.mp (hstranger u hknown)), and_self]

/-- Who is known and knows the password gets what is issued. -/
theorem login_of_known {σ : Type} {service : Accounts σ} {s : σ}
    {known : Username → Option User} (h : Holds service.users s known) {name password : String}
    {u : User} (hnamed : named known name = some u)
    (haccepts : service.passwords.accepts u.passwordHash password = true) (now : Instant) :
    (service.login now name password s).ending = (service.issue now u.id s).ending ∧
      (service.login now name password s).state = (service.issue now u.id s).state := by
  cases hname : Username.parse name with
  | error cause =>
      rw [named, hname] at hnamed
      cases hnamed
  | ok username =>
      rw [named, hname] at hnamed
      rw [login_of_name hname]
      simp only [h.found username u hnamed, verdict, if_pos haccepts, issue]
      cases Bearer.issue service.signingKey u.id now with
      | none => exact ⟨rfl, h.state username⟩
      | some issued => exact ⟨rfl, h.state username⟩

/-! ### Signing in -/

section Login

variable {passwords : PasswordScheme} {signingKey : String} {table : UserTable} {now : Instant}
  {name password : String}

theorem named_eq_some {u : User} (h : named (knownIn table) name = some u) :
    u ∈ table.users ∧ Username.parse name = .ok u.username := by
  unfold named at h
  cases hname : Username.parse name with
  | error cause =>
      rw [hname] at h
      cases h
  | ok username =>
      rw [hname] at h
      have hu : u.username = username :=
        beq_iff_eq.mp (List.find?_some (p := fun v : User => v.username == username) h)
      rw [hu]
      exact ⟨List.mem_of_find?_eq_some h, rfl⟩

theorem named_eq_none (h : named (knownIn table) name = none) :
    ∀ u ∈ table.users, Username.parse name ≠ .ok u.username := by
  intro u hu hname
  rw [named, hname] at h
  exact List.find?_eq_none.mp h u hu (beq_self_eq_true u.username)

/-- How signing in can end. -/
inductive SignIn (passwords : PasswordScheme) (signingKey : String) (table : UserTable)
    (now : Instant) (name password : String) : Ending AuthError Bearer.Issued → Prop
  | refused (h : ∀ u ∈ table.users, ¬Knows passwords u name password) :
      SignIn passwords signingKey table now name password (.failed .invalidCredentials)
  | accepted {u : User} {issued : Bearer.Issued} (hu : u ∈ table.users)
      (h : Knows passwords u name password)
      (hissued : Bearer.issue signingKey u.id now = some issued) :
      SignIn passwords signingKey table now name password (.done issued)
  /-- There is no time at which the token would expire. -/
  | late {u : User} (hu : u ∈ table.users) (h : Knows passwords u name password)
      (hissued : Bearer.issue signingKey u.id now = none) :
      SignIn passwords signingKey table now name password .aborted

theorem signIn (hs : table.Sound) (passwords : PasswordScheme) (signingKey : String)
    (now : Instant) (name password : String) :
    SignIn passwords signingKey table now name password
        ((inMemory passwords signingKey now).login now name password table).ending ∧
      ((inMemory passwords signingKey now).login now name password table).state = table := by
  have hholds : Holds (inMemory passwords signingKey now).users table (knownIn table) :=
    holds_table table now
  cases hnamed : named (knownIn table) name with
  | none =>
      have hstranger : ∀ u, named (knownIn table) name = some u →
          passwords.accepts u.passwordHash password = false := by
        intro u h
        rw [hnamed] at h
        cases h
      obtain ⟨hending, hstate⟩ := login_of_stranger hholds hstranger now
      rw [hending, hstate]
      exact ⟨.refused fun u hu h => named_eq_none hnamed u hu h.name, rfl⟩
  | some u =>
      obtain ⟨hu, hname⟩ := named_eq_some hnamed
      cases haccepts : passwords.accepts u.passwordHash password with
      | true =>
          have hknows : Knows passwords u name password := ⟨hname, haccepts⟩
          obtain ⟨hending, hstate⟩ := login_of_known hholds hnamed haccepts now
          rw [hending, hstate]
          unfold issue
          cases hissued : Bearer.issue signingKey u.id now with
          | none =>
              simp only [inMemory, hissued]
              exact ⟨.late hu hknows hissued, rfl⟩
          | some issued =>
              simp only [inMemory, hissued]
              exact ⟨.accepted hu hknows hissued, rfl⟩
      | false =>
          have hstranger : ∀ v, named (knownIn table) name = some v →
              passwords.accepts v.passwordHash password = false := by
            intro v h
            rw [hnamed] at h
            cases h
            exact haccepts
          obtain ⟨hending, hstate⟩ := login_of_stranger hholds hstranger now
          rw [hending, hstate]
          refine ⟨.refused ?_, rfl⟩
          intro v hv h
          -- nobody else has the name, so nobody else could know the password
          have hsame : v.username = u.username := by
            injection h.name.symm.trans hname
          obtain rfl := hs.eq_of_username hv hu hsame
          exact absurd h.password (Bool.eq_false_iff.mp haccepts)

end Login

/-! ### Being recognised -/

section Issued

variable {signingKey : String} {id : UserId} {now : Instant} {issued : Bearer.Issued}

/-- A token is recognised until twelve hours of whole seconds have passed. -/
theorem identify_issued (h : Bearer.issue signingKey id now = some issued) {later : Instant}
    (hlater : later.seconds < now.seconds + 43200) :
    identify signingKey later issued.token = .ok id := by
  rw [identify, Bearer.validate_issued h, if_pos hlater]
  rfl

end Issued

/--
**Registration, signing in and recognition agree.**  After any registrations, one after
another, with any input: whoever signs in gets a token exactly when some registration was
successful with the same password under the same name, blanks around it aside, and is
refused otherwise.  Only when there is no time at which the token would expire is the work
given up.  The token is recognised until twelve hours of whole seconds have passed, and
always as the number that this registration was answered with.
-/
theorem registered_are_recognised (passwords : PasswordScheme) (signingKey : String)
    (visits : List Visit) (hexact : Exact passwords visits) (now : Instant)
    (name password : String) :
    (now.seconds + 43200 ≤ Instant.maxSecond →
      ((∃ issued, ((inMemory passwords signingKey now).login now name password
            (Ledger.of passwords signingKey visits).table).ending = .done issued) ↔
        (Ledger.of passwords signingKey visits).Admits name password)) ∧
    (¬(Ledger.of passwords signingKey visits).Admits name password →
      ((inMemory passwords signingKey now).login now name password
        (Ledger.of passwords signingKey visits).table).ending = .failed .invalidCredentials) ∧
    (Instant.maxSecond < now.seconds + 43200 →
      (Ledger.of passwords signingKey visits).Admits name password →
      ((inMemory passwords signingKey now).login now name password
        (Ledger.of passwords signingKey visits).table).ending = .aborted) ∧
    ∀ issued, ((inMemory passwords signingKey now).login now name password
          (Ledger.of passwords signingKey visits).table).ending = .done issued →
      ∀ r ∈ (Ledger.of passwords signingKey visits).records, ∀ id, r.Admits name password id →
        ∀ later : Instant, later.seconds < now.seconds + 43200 →
          identify signingKey later issued.token = .ok id := by
  have hsound := (Ledger.kept_of passwords signingKey visits).sound
  obtain ⟨hsignIn, -⟩ := signIn hsound passwords signingKey now name password
  generalize ((inMemory passwords signingKey now).login now name password
    (Ledger.of passwords signingKey visits).table).ending = ending at hsignIn
  cases hsignIn with
  | refused hnobody =>
      have hnone : ¬(Ledger.of passwords signingKey visits).Admits name password := by
        rintro ⟨r, hr, id, hadmits⟩
        obtain ⟨u, hu, hknows, -⟩ := user_of_admits hexact hr hadmits
        exact hnobody u hu hknows
      refine ⟨?_, fun _ => rfl, fun _ h => absurd h hnone, fun issued h => nomatch h⟩
      intro _
      constructor
      · rintro ⟨issued, h⟩
        cases h
      · intro h
        exact absurd h hnone
  | accepted hu hknows hissued =>
      have hadmits := admits_of_user hexact hu hknows
      refine ⟨fun _ => ⟨fun _ => hadmits, fun _ => ⟨_, rfl⟩⟩, fun hnone => absurd hadmits hnone,
        ?_, ?_⟩
      · intro hlate
        cases hissued.symm.trans (Bearer.issue_eq_none_iff.mpr hlate)
      · intro issued hdone r hr id hadmits later hlater
        injection hdone with hdone
        subst hdone
        -- the registration that admits is that of the user who was found
        obtain ⟨u', hu', hknows', hid⟩ := user_of_admits hexact hr hadmits
        have hsame := Except.ok.inj (hknows'.name.symm.trans hknows.name)
        rw [← hid, hsound.eq_of_username hu' hu hsame]
        exact identify_issued hissued hlater
  | late hu hknows hissued =>
      have hadmits := admits_of_user hexact hu hknows
      refine ⟨?_, fun hnone => absurd hadmits hnone, fun _ _ => rfl, fun issued h => nomatch h⟩
      intro hnow
      exact absurd (Bearer.issue_eq_none_iff.mp hissued) (not_lt.mpr hnow)

/-- Alice registers with blanks around the name, somebody tries to take it over, and somebody
registers under the same name in capitals. -/
def threeVisits : List Visit :=
  [⟨.epoch, [], ⟨" alice ", "alice@example.org", "secret"⟩⟩,
   ⟨.epoch, [], ⟨"alice", "mallory@example.org", "stolen"⟩⟩,
   ⟨.epoch, [], ⟨"ALICE", "other@example.org", "SECRET"⟩⟩]

/-- Alice signs in under her name without the blanks, and nobody signs in with the other
password. -/
theorem alice_recognised :
    Exact plain threeVisits ∧
    (∃ issued, ((inMemory plain "k" .epoch).login .epoch "alice\t" "secret"
        (Ledger.of plain "k" threeVisits).table).ending = .done issued ∧
      identify "k" ⟨43199, 999999999, by decide⟩ issued.token = .ok ⟨1⟩) ∧
    ((inMemory plain "k" .epoch).login .epoch "alice" "stolen"
      (Ledger.of plain "k" threeVisits).table).ending = .failed .invalidCredentials := by
  have hexact : Exact plain threeVisits := by
    intro v _ password
    rw [plain, beq_iff_eq]
    exact eq_comm
  have hrecords : (Ledger.of plain "k" threeVisits).records =
      [⟨⟨.epoch, [], ⟨" alice ", "alice@example.org", "secret"⟩⟩, .done ⟨1⟩⟩,
       ⟨⟨.epoch, [], ⟨"alice", "mallory@example.org", "stolen"⟩⟩, .failed .userAlreadyExists⟩,
       ⟨⟨.epoch, [], ⟨"ALICE", "other@example.org", "SECRET"⟩⟩, .done ⟨2⟩⟩] := by decide
  refine ⟨hexact, ?_, ?_⟩
  · obtain ⟨hiff, -, -, hidentify⟩ :=
      registered_are_recognised plain "k" threeVisits hexact .epoch "alice\t" "secret"
    have hadmits : Record.Admits
        ⟨⟨.epoch, [], ⟨" alice ", "alice@example.org", "secret"⟩⟩, .done ⟨1⟩⟩
        "alice\t" "secret" ⟨1⟩ := ⟨rfl, by decide, rfl⟩
    have hmem : _ ∈ (Ledger.of plain "k" threeVisits).records :=
      hrecords ▸ List.mem_cons_self ..
    obtain ⟨issued, hissued⟩ := (hiff (by decide)).mpr ⟨_, hmem, _, hadmits⟩
    exact ⟨issued, hissued, hidentify issued hissued _ hmem _ hadmits _ (by decide)⟩
  · obtain ⟨-, hrefused, -, -⟩ :=
      registered_are_recognised plain "k" threeVisits hexact .epoch "alice" "stolen"
    refine hrefused ?_
    rintro ⟨r, hr, id, hadmits⟩
    rw [hrecords] at hr
    simp only [List.mem_cons, List.not_mem_nil, or_false] at hr
    rcases hr with rfl | rfl | rfl
    · exact absurd hadmits.password (by decide)
    · cases hadmits.ending
    · exact absurd hadmits.password (by decide)

end OrderDesk.Accounts
