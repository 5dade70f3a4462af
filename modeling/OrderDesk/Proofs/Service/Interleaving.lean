/-
Registrations at the same time.

A registration takes three turns: it judges what was asked for, it makes the password
ready, and it adds the user.  The first two look at nothing but the application, and the
table is free for others in the meantime.  Here any number of callers take their turns in
any order.

What one turn can do is said once, by `Phase.Turned`.  What is known of a caller between
turns is said by `Phase.Fits`, one case for each way in which a call can have come so far.
That the turns of others spoil neither rests on one fact: the table only ever grows at its
end, so a user who is there stays there.
-/
import OrderDesk.Proofs.Service.Registration

namespace OrderDesk.Accounts

open OrderDesk.Memory

/-! ### Turns -/

/-- How far a registration has come. -/
inductive Phase where
  | begun
  | judged (username : Username) (email : Email)
  | ready (user : NewUser)
  | finished (ending : Ending AuthError UserId)
  deriving DecidableEq

/-- A caller goes one step further, with the random bytes that are drawn and the time that the
clock shows. -/
structure Turn (ι : Type) where
  caller : ι
  salt : List UInt8
  now : Instant

/-- The table, and how far each caller has come. -/
structure Crowd (ι : Type) where
  table : UserTable
  phase : ι → Phase

/-- One step of a registration. -/
def Phase.step (passwords : PasswordScheme) (a : Application) (salt : List UInt8) (now : Instant)
    (table : UserTable) : Phase → Phase × UserTable
  | begun =>
    match judge a with
    | .ok (username, email) => (judged username email, table)
    | .error e => (finished (.failed e), table)
  | judged username email => (ready (accepted passwords salt a.password username email), table)
  | ready user =>
    let step := ((userStore now).create user).mapError ofCreateError table
    (finished step.ending, step.state)
  | finished ending => (finished ending, table)

namespace Crowd

variable {ι : Type} [DecidableEq ι] (passwords : PasswordScheme) (applications : ι → Application)

/-- Nobody has taken a turn yet. -/
def start : Crowd ι := ⟨.empty, fun _ => .begun⟩

/-- One caller takes a turn. -/
def next (crowd : Crowd ι) (turn : Turn ι) : Crowd ι :=
  let (phase, table) := (crowd.phase turn.caller).step passwords (applications turn.caller)
    turn.salt turn.now crowd.table
  ⟨table, Function.update crowd.phase turn.caller phase⟩

/-- These turns are taken, one after another. -/
def of (turns : List (Turn ι)) : Crowd ι := turns.foldl (next passwords applications) start

theorem of_snoc (turns : List (Turn ι)) (turn : Turn ι) :
    of passwords applications (turns ++ [turn]) =
      (of passwords applications turns).next passwords applications turn := by
  rw [of, List.foldl_append]
  rfl

end Crowd

/-! ### What one turn can do -/

/-- What a step of a registration makes of how far it has come and of the table. -/
inductive Phase.Turned (passwords : PasswordScheme) (a : Application) (salt : List UInt8)
    (now : Instant) (table : UserTable) : Phase → Phase × UserTable → Prop
  | judged {username : Username} {email : Email} (h : a.Valid username email) :
      Turned passwords a salt now table .begun (.judged username email, table)
  | rejected {e : AuthError} (h : a.Fault e) :
      Turned passwords a salt now table .begun (.finished (.failed e), table)
  | ready {username : Username} {email : Email} :
      Turned passwords a salt now table (.judged username email)
        (.ready (accepted passwords salt a.password username email), table)
  | stored {user : NewUser} {ending : Ending AuthError UserId} {table' : UserTable}
      (h : UserTable.Admission .userAlreadyExists now user table ending table') :
      Turned passwords a salt now table (.ready user) (.finished ending, table')
  | finished {ending : Ending AuthError UserId} :
      Turned passwords a salt now table (.finished ending) (.finished ending, table)

theorem Phase.turned {table : UserTable} (hs : table.Sound) (passwords : PasswordScheme)
    (a : Application) (salt : List UInt8) (now : Instant) (phase : Phase) :
    phase.Turned passwords a salt now table (phase.step passwords a salt now table) := by
  cases phase with
  | begun =>
      unfold Phase.step
      rcases valid_or_fault a with ⟨username, email, hvalid⟩ | ⟨e, hfault⟩
      · rw [judge_of_valid hvalid]
        exact .judged hvalid
      · rw [judge_of_fault hfault]
        exact .rejected hfault
  | judged username email => exact .ready
  | ready user => exact .stored ((UserTable.admission hs now user).mapError ofCreateError)
  | finished ending => exact .finished

section Turned

variable {passwords : PasswordScheme} {a : Application} {salt : List UInt8} {now : Instant}
  {table : UserTable} {phase : Phase} {next : Phase × UserTable}

/-- No turn changes or removes a user. -/
theorem Phase.Turned.isPrefix (h : phase.Turned passwords a salt now table next) :
    table.users <+: next.2.users := by
  cases h with
  | stored h => exact h.isPrefix
  | judged | rejected | ready | finished => exact List.prefix_refl _

theorem Phase.Turned.sound (h : phase.Turned passwords a salt now table next)
    (hs : table.Sound) : next.2.Sound := by
  cases h with
  | stored h => exact h.sound hs
  | judged | rejected | ready | finished => exact hs

end Turned

/-! ### What is known between turns -/

/-- What is known of a caller who has come so far. -/
inductive Phase.Fits (passwords : PasswordScheme) (a : Application) (table : UserTable) :
    Phase → Prop
  | begun : Fits passwords a table .begun
  | judged {username : Username} {email : Email} (h : a.Valid username email) :
      Fits passwords a table (.judged username email)
  | ready {username : Username} {email : Email} (salt : List UInt8)
      (h : a.Valid username email) :
      Fits passwords a table (.ready (accepted passwords salt a.password username email))
  | rejected {e : AuthError} (h : a.Fault e) : Fits passwords a table (.finished (.failed e))
  | refused {username : Username} {email : Email} (h : a.Valid username email) :
      Fits passwords a table (.finished (.failed .userAlreadyExists))
  | registered {u : User} (hu : u ∈ table.users) (h : a.Valid u.username u.email) :
      Fits passwords a table (.finished (.done u.id))
  | full {username : Username} {email : Email} (h : a.Valid username email) :
      Fits passwords a table (.finished .aborted)

section Fits

variable {passwords : PasswordScheme} {a : Application} {table table' : UserTable} {phase : Phase}

/-- Users who are added make no difference to what is known of others. -/
theorem Phase.Fits.mono (h : phase.Fits passwords a table)
    (hgrown : table.users <+: table'.users) : phase.Fits passwords a table' := by
  cases h with
  | begun => exact .begun
  | judged h => exact .judged h
  | ready salt h => exact .ready salt h
  | rejected h => exact .rejected h
  | refused h => exact .refused h
  | registered hu h => exact .registered (hgrown.subset hu) h
  | full h => exact .full h

/-- A turn leads a caller to something that is known again. -/
theorem Phase.Fits.turn {salt : List UInt8} {now : Instant} {next : Phase × UserTable}
    (h : phase.Fits passwords a table) (ht : phase.Turned passwords a salt now table next) :
    next.1.Fits passwords a next.2 := by
  cases ht with
  | judged hvalid => exact .judged hvalid
  | rejected hfault => exact .rejected hfault
  | ready =>
      cases h with
      | judged hvalid => exact .ready salt hvalid
  | stored hadmission =>
      cases h with
      | ready salt' hvalid =>
          cases hadmission with
          | refused => exact .refused hvalid
          | added => exact .registered (List.mem_append_right _ (List.mem_singleton_self _)) hvalid
          | full => exact .full hvalid
  | finished => exact h

end Fits

namespace Crowd

/-- What every order of turns keeps up. -/
structure Orderly {ι : Type} (passwords : PasswordScheme) (applications : ι → Application)
    (crowd : Crowd ι) : Prop where
  sound : crowd.table.Sound
  fits : ∀ c, (crowd.phase c).Fits passwords (applications c) crowd.table
  /-- No two callers got the same number. -/
  apart : ∀ c d id, crowd.phase c = .finished (.done id) →
    crowd.phase d = .finished (.done id) → c = d

theorem orderly_start {ι : Type} (passwords : PasswordScheme) (applications : ι → Application) :
    Orderly passwords applications start :=
  ⟨UserTable.sound_empty, fun _ => .begun, fun _ _ _ h => nomatch h⟩

section Known

variable {ι : Type} {passwords : PasswordScheme} {applications : ι → Application}
  {crowd : Crowd ι}

/-- Nobody else has the number that a caller has after a turn. -/
theorem Orderly.apart_turned (h : Orderly passwords applications crowd) {c d : ι} {id : UserId}
    {salt : List UInt8} {now : Instant} {table : UserTable}
    (ht : (crowd.phase c).Turned passwords (applications c) salt now crowd.table
      (.finished (.done id), table))
    (hd : crowd.phase d = .finished (.done id)) : c = d := by
  generalize hc : crowd.phase c = phase at ht
  cases ht with
  | stored hadmission =>
      cases hadmission with
      | added _ _ hid =>
          -- the new number is larger than every number in the table, and the other one is there
          have hfits := h.fits d
          rw [hd] at hfits
          cases hfits with
          | registered hu _ =>
              have hle := h.sound.id_le hu
              omega
  | finished => exact h.apart c d id hc hd

/-- No two callers who have registered have spelled the same address. -/
theorem Orderly.not_sameAddress (h : Orderly passwords applications crowd) {c d : ι}
    (hcd : c ≠ d) {i j : UserId} (hc : crowd.phase c = .finished (.done i))
    (hd : crowd.phase d = .finished (.done j)) :
    ¬SameAddress (applications c).email (applications d).email := by
  intro hsame
  have hfitc := h.fits c
  have hfitd := h.fits d
  rw [hc] at hfitc
  rw [hd] at hfitd
  cases hfitc with
  | @registered u hu hvalid =>
      cases hfitd with
      | @registered v hv hvalid' =>
          -- one address has one user, and the number of that user was given to one caller
          have hemail := (Email.parse_eq_iff hvalid.email hvalid'.email).mpr hsame
          obtain rfl := h.sound.eq_of_email hu hv hemail
          exact hcd (h.apart c d _ hc hd)

/-- Whoever asks for something invalid has not begun or has been told the first fault. -/
theorem Orderly.phase_of_fault (h : Orderly passwords applications crowd) {c : ι} {e : AuthError}
    (hfault : (applications c).Fault e) :
    crowd.phase c = .begun ∨ crowd.phase c = .finished (.failed e) := by
  have hfits := h.fits c
  generalize crowd.phase c = phase at hfits
  cases hfits with
  | begun => exact Or.inl rfl
  | rejected hfault' => rw [hfault.unique hfault']; exact Or.inr rfl
  | judged hvalid | ready _ hvalid | refused hvalid | registered _ hvalid | full hvalid =>
      exact absurd hfault hvalid.not_fault

end Known

/-! ### Single turns -/

variable {ι : Type} [DecidableEq ι] {passwords : PasswordScheme} {applications : ι → Application}
  {crowd : Crowd ι}

/-- Who is not the one whose turn it is stays where they are. -/
theorem phase_next_of_ne {turn : Turn ι} {c : ι} (hc : c ≠ turn.caller) :
    (crowd.next passwords applications turn).phase c = crowd.phase c :=
  Function.update_of_ne hc _ _

theorem phase_next_self {turn : Turn ι} :
    (crowd.next passwords applications turn).phase turn.caller =
      ((crowd.phase turn.caller).step passwords (applications turn.caller) turn.salt turn.now
        crowd.table).1 :=
  Function.update_self _ _ _

/-- What a turn makes of the crowd. -/
theorem Orderly.turned (h : Orderly passwords applications crowd) (turn : Turn ι) :
    ∃ phase table,
      crowd.next passwords applications turn =
        ⟨table, Function.update crowd.phase turn.caller phase⟩ ∧
      (crowd.phase turn.caller).Turned passwords (applications turn.caller) turn.salt turn.now
        crowd.table (phase, table) :=
  ⟨_, _, rfl, Phase.turned h.sound _ _ _ _ _⟩

theorem Orderly.next (h : Orderly passwords applications crowd) (turn : Turn ι) :
    Orderly passwords applications (crowd.next passwords applications turn) := by
  obtain ⟨phase, table, hnext, hturned⟩ := h.turned turn
  rw [hnext]
  refine ⟨hturned.sound h.sound, ?_, ?_⟩
  · intro c
    by_cases hc : c = turn.caller
    · subst hc
      simp only [Function.update_self]
      exact (h.fits turn.caller).turn hturned
    · simp only [Function.update_of_ne hc]
      exact (h.fits c).mono hturned.isPrefix
  · intro c d id hcdone hddone
    by_cases hc : c = turn.caller
    · by_cases hd : d = turn.caller
      · rw [hc, hd]
      · simp only [hc, Function.update_self] at hcdone
        simp only [Function.update_of_ne hd] at hddone
        rw [hcdone] at hturned
        rw [hc]
        exact h.apart_turned hturned hddone
    · simp only [Function.update_of_ne hc] at hcdone
      by_cases hd : d = turn.caller
      · simp only [hd, Function.update_self] at hddone
        rw [hddone] at hturned
        rw [hd]
        exact (h.apart_turned hturned hcdone).symm
      · simp only [Function.update_of_ne hd] at hddone
        exact h.apart c d id hcdone hddone

theorem orderly_of (passwords : PasswordScheme) (applications : ι → Application)
    (turns : List (Turn ι)) : Orderly passwords applications (of passwords applications turns) := by
  induction turns using List.reverseRecOn with
  | nil => exact orderly_start passwords applications
  | append_singleton turns turn ih =>
      rw [of_snoc]
      exact ih.next turn

/-- Only who is ready makes a turn that the table can see. -/
theorem Orderly.table_next (h : Orderly passwords applications crowd) {turn : Turn ι}
    (hready : ∀ user, crowd.phase turn.caller ≠ .ready user) :
    (crowd.next passwords applications turn).table = crowd.table := by
  obtain ⟨phase, table, hnext, hturned⟩ := h.turned turn
  rw [hnext]
  generalize hphase : crowd.phase turn.caller = before at hturned
  cases hturned with
  | stored => exact absurd hphase (hready _)
  | judged | rejected | ready | finished => rfl

/-- The turn in which a valid registration adds the user. -/
theorem Orderly.admission (h : Orderly passwords applications crowd) {turn : Turn ι}
    {username : Username} {email : Email}
    (hvalid : (applications turn.caller).Valid username email)
    (hready : ∃ user, crowd.phase turn.caller = .ready user) :
    ∃ user ending, user.username = username ∧ user.email = email ∧
      (crowd.next passwords applications turn).phase turn.caller = .finished ending ∧
      UserTable.Admission .userAlreadyExists turn.now user crowd.table ending
        (crowd.next passwords applications turn).table := by
  obtain ⟨user, huser⟩ := hready
  obtain ⟨phase, table, hnext, hturned⟩ := h.turned turn
  have hfits := h.fits turn.caller
  rw [hnext]
  simp only [Function.update_self]
  rw [huser] at hturned hfits
  cases hfits with
  | ready salt hvalid' =>
      obtain ⟨rfl, rfl⟩ := hvalid.unique hvalid'
      cases hturned with
      | stored hadmission => exact ⟨_, _, rfl, rfl, rfl, hadmission⟩

/-- The turn in which a caller adds the user is a whole registration at that moment. -/
theorem Orderly.eq_register (h : Orderly passwords applications crowd) {turn : Turn ι}
    {user : NewUser} (hready : crowd.phase turn.caller = .ready user) (signingKey : String) :
    ∃ salt,
      let step := (inMemory passwords signingKey turn.now).register salt
        (applications turn.caller) crowd.table
      (crowd.next passwords applications turn).phase turn.caller = .finished step.ending ∧
        (crowd.next passwords applications turn).table = step.state := by
  have hfits := h.fits turn.caller
  rw [hready] at hfits
  cases hfits with
  | ready salt hvalid =>
      obtain ⟨hending, hstate⟩ := register_of_valid hvalid
        (inMemory passwords signingKey turn.now) salt crowd.table
      refine ⟨salt, ?_, ?_⟩
      · rw [phase_next_self, hready, hending]
        rfl
      · rw [hstate]
        unfold Crowd.next
        rw [hready]
        rfl

/-- A call that is finished stays so. -/
theorem phase_next_of_finished {turn : Turn ι} {c : ι} {ending : Ending AuthError UserId}
    (hc : crowd.phase c = .finished ending) :
    (crowd.next passwords applications turn).phase c = .finished ending := by
  by_cases hcaller : c = turn.caller
  · subst hcaller
    rw [phase_next_self, hc]
    rfl
  · rw [phase_next_of_ne hcaller, hc]

/-! ### Several turns -/

/-- The table only grows at its end, and a call that is finished stays so. -/
theorem later (passwords : PasswordScheme) (applications : ι → Application)
    (turns more : List (Turn ι)) :
    (of passwords applications turns).table.users <+:
        (of passwords applications (turns ++ more)).table.users ∧
      ∀ c ending, (of passwords applications turns).phase c = .finished ending →
        (of passwords applications (turns ++ more)).phase c = .finished ending := by
  induction more using List.reverseRecOn with
  | nil =>
      rw [List.append_nil]
      exact ⟨List.prefix_refl _, fun _ _ h => h⟩
  | append_singleton more turn ih =>
      rw [← List.append_assoc, of_snoc]
      obtain ⟨hgrown, hfinished⟩ := ih
      obtain ⟨phase, table, hnext, hturned⟩ :=
        (orderly_of passwords applications (turns ++ more)).turned turn
      refine ⟨?_, ?_⟩
      · rw [hnext]
        exact hgrown.trans hturned.isPrefix
      · intro c ending h
        exact phase_next_of_finished (hfinished c ending h)

/-- A valid registration that is finished has had the turn in which it adds the user. -/
theorem exists_admission {c : ι} {username : Username} {email : Email}
    (hvalid : (applications c).Valid username email) {turns : List (Turn ι)}
    {ending : Ending AuthError UserId}
    (hfinished : (of passwords applications turns).phase c = .finished ending) :
    ∃ before turn after, turns = before ++ turn :: after ∧ turn.caller = c ∧
      ∃ user, (of passwords applications before).phase c = .ready user := by
  induction turns using List.reverseRecOn with
  | nil => cases hfinished
  | append_singleton turns turn ih =>
      -- either the call was finished before this turn, or this is the turn
      have hearlier : (of passwords applications turns).phase c = .finished ending →
          ∃ before t after, turns ++ [turn] = before ++ t :: after ∧ t.caller = c ∧
            ∃ user, (of passwords applications before).phase c = .ready user := by
        intro h
        obtain ⟨before, t, after, rfl, hcaller, hready⟩ := ih h
        exact ⟨before, t, after ++ [turn], by simp, hcaller, hready⟩
      rw [of_snoc] at hfinished
      by_cases hc : c = turn.caller
      · subst hc
        rw [phase_next_self] at hfinished
        cases hphase : (of passwords applications turns).phase turn.caller with
        | begun =>
            rw [hphase, Phase.step, judge_of_valid hvalid] at hfinished
            cases hfinished
        | judged username email =>
            rw [hphase] at hfinished
            cases hfinished
        | ready user => exact ⟨turns, turn, [], rfl, rfl, user, hphase⟩
        | finished ending' =>
            rw [hphase] at hfinished
            exact hearlier (hphase.trans hfinished)
      · rw [phase_next_of_ne hc] at hfinished
        exact hearlier hfinished

/-- How many turns a call has behind it that were of use. -/
def rank : Phase → Nat
  | .begun => 0
  | .judged _ _ => 1
  | .ready _ => 2
  | .finished _ => 3

theorem rank_step (passwords : PasswordScheme) (a : Application) (salt : List UInt8)
    (now : Instant) (table : UserTable) (phase : Phase) :
    min 3 (rank phase + 1) ≤ rank (phase.step passwords a salt now table).1 := by
  cases phase with
  | begun =>
      unfold Phase.step
      cases judge a <;> simp [rank]
  | judged username email => exact Nat.le_refl 2
  | ready user => exact Nat.le_refl 3
  | finished ending => exact Nat.le_refl 3

/-- Every turn of a caller is of use until the call is finished. -/
theorem le_rank (passwords : PasswordScheme) (applications : ι → Application)
    (turns : List (Turn ι)) (c : ι) :
    min 3 (turns.countP fun turn => turn.caller = c) ≤
      rank ((of passwords applications turns).phase c) := by
  induction turns using List.reverseRecOn with
  | nil => exact Nat.zero_le _
  | append_singleton turns turn ih =>
      rw [of_snoc, List.countP_append]
      by_cases hc : c = turn.caller
      · subst hc
        have hstep := rank_step passwords (applications turn.caller) turn.salt
          turn.now (of passwords applications turns).table
          ((of passwords applications turns).phase turn.caller)
        rw [phase_next_self]
        simp only [List.countP_singleton, decide_true, if_true]
        omega
      · rw [phase_next_of_ne hc, List.countP_singleton, if_neg (by simpa using Ne.symm hc)]
        exact ih

/-- Three turns finish a call. -/
theorem finished_of_three {turns : List (Turn ι)} {c : ι}
    (h : 3 ≤ turns.countP fun turn => turn.caller = c) :
    ∃ ending, (of passwords applications turns).phase c = .finished ending := by
  have hle := le_rank passwords applications turns c
  rw [Nat.min_eq_left h] at hle
  generalize (of passwords applications turns).phase c = phase at hle
  cases phase with
  | finished ending => exact ⟨ending, rfl⟩
  | begun | judged | ready => simp [rank] at hle

/-! ### All turns -/

/-- What belongs to one user belongs to no other. -/
structure Unique {ι : Type} (applications : ι → Application) (crowd : Crowd ι) : Prop where
  names : (crowd.table.users.map User.username).Nodup
  addresses : (crowd.table.users.map User.email).Nodup
  /-- No two callers who have registered have spelled the same address. -/
  spelled : ∀ c d i j, c ≠ d → crowd.phase c = .finished (.done i) →
    crowd.phase d = .finished (.done j) → ¬SameAddress (applications c).email (applications d).email
  /-- The users are numbered from one, in the order in which they were added. -/
  numbered : (crowd.table.users.map fun u => u.id.value.toInt) =
    (List.range crowd.table.users.length).map fun n : Nat => (n : Int) + 1

/-- Between these states the call of somebody who asks for this name and this address was
decided by what the table held. -/
structure Decided {ι : Type} (before after : Crowd ι) (c : ι) (username : Username)
    (email : Email) : Prop where
  free : before.table.Free username email →
    ∃ u : User, u.username = username ∧ u.email = email ∧
      u.id.value.toInt = before.table.users.length + 1 ∧
      after.phase c = .finished (.done u.id) ∧ after.table.users = before.table.users ++ [u]
  taken : ¬before.table.Free username email →
    after.phase c = .finished (.failed .userAlreadyExists) ∧ after.table = before.table

theorem Orderly.unique {ι : Type} {passwords : PasswordScheme} {applications : ι → Application}
    {crowd : Crowd ι} (h : Orderly passwords applications crowd) : crowd.Unique applications := by
  refine ⟨h.sound.names, h.sound.addresses, ?_, h.sound.numbered⟩
  intro c d i j hcd hc hd
  exact h.not_sameAddress hcd hc hd

theorem Orderly.decided (h : Orderly passwords applications crowd) {turn : Turn ι}
    {username : Username} {email : Email}
    (hvalid : (applications turn.caller).Valid username email)
    (hready : ∃ user, crowd.phase turn.caller = .ready user)
    (hcount : crowd.table.users.length < 2147483647) :
    crowd.Decided (crowd.next passwords applications turn) turn.caller username email := by
  obtain ⟨user, ending, rfl, rfl, hphase, hadmission⟩ := h.admission hvalid hready
  generalize crowd.next passwords applications turn = after at hphase hadmission
  generalize htable : after.table = table at hadmission
  cases hadmission with
  | refused htaken => exact ⟨fun hfree => absurd hfree htaken, fun _ => ⟨hphase, htable⟩⟩
  | added hfree _ hid =>
      refine ⟨?_, fun htaken => absurd hfree htaken⟩
      intro _
      exact ⟨user.row _ turn.now, rfl, rfl, hid, hphase, congrArg UserTable.users htable⟩
  | full _ hfull => exact absurd hcount hfull

/--
**No name and no address is registered twice, in whatever order the turns are taken.**
Any number of callers may ask for anything.  In every state that is reached no two users
share a name or an address or have spelled the same address, and they are numbered from one
in the order in which they were added.  Whatever is done later on, they stay as they are,
and so does every answer.

A valid call whose turn it is to add the user succeeds if nobody in the table has the name
or the address, and learns otherwise that the user exists already.  That turn does what a
whole registration does at that moment, and no other turn touches the table.  A valid call
that is finished has had this turn.  An invalid call is told the first fault and never touches
the table.  And whoever takes three turns gets an answer.
-/
theorem registered_once (passwords : PasswordScheme) (applications : ι → Application)
    (turns : List (Turn ι)) :
    (of passwords applications turns).Unique applications ∧
    (∀ more,
      (of passwords applications turns).table.users <+:
        (of passwords applications (turns ++ more)).table.users ∧
      ∀ c ending, (of passwords applications turns).phase c = .finished ending →
        (of passwords applications (turns ++ more)).phase c = .finished ending) ∧
    (∀ (turn : Turn ι) (username : Username) (email : Email),
      (applications turn.caller).Valid username email →
      (∃ user, (of passwords applications turns).phase turn.caller = .ready user) →
      (of passwords applications turns).table.users.length < 2147483647 →
      (of passwords applications turns).Decided (of passwords applications (turns ++ [turn]))
        turn.caller username email) ∧
    (∀ (turn : Turn ι) (user : NewUser) (signingKey : String),
      (of passwords applications turns).phase turn.caller = .ready user →
      ∃ salt,
        let step := (inMemory passwords signingKey turn.now).register salt
          (applications turn.caller) (of passwords applications turns).table
        (of passwords applications (turns ++ [turn])).phase turn.caller = .finished step.ending ∧
          (of passwords applications (turns ++ [turn])).table = step.state) ∧
    (∀ turn : Turn ι,
      (∀ user, (of passwords applications turns).phase turn.caller ≠ .ready user) →
      (of passwords applications (turns ++ [turn])).table =
        (of passwords applications turns).table) ∧
    (∀ c username email ending, (applications c).Valid username email →
      (of passwords applications turns).phase c = .finished ending →
      ∃ before turn after, turns = before ++ turn :: after ∧ turn.caller = c ∧
        ∃ user, (of passwords applications before).phase c = .ready user) ∧
    (∀ c e, (applications c).Fault e →
      ((of passwords applications turns).phase c = .begun ∨
        (of passwords applications turns).phase c = .finished (.failed e)) ∧
      ∀ turn : Turn ι, turn.caller = c →
        (of passwords applications (turns ++ [turn])).table =
          (of passwords applications turns).table) ∧
    ∀ c, 3 ≤ (turns.countP fun turn => turn.caller = c) →
      ∃ ending, (of passwords applications turns).phase c = .finished ending := by
  have horderly := orderly_of passwords applications turns
  refine ⟨horderly.unique, later passwords applications turns, ?_, ?_, ?_, ?_, ?_, ?_⟩
  · intro turn username email hvalid hready hcount
    rw [of_snoc]
    exact horderly.decided hvalid hready hcount
  · intro turn user signingKey hready
    rw [of_snoc]
    exact horderly.eq_register hready signingKey
  · intro turn hready
    rw [of_snoc]
    exact horderly.table_next hready
  · intro c username email ending hvalid hfinished
    exact exists_admission hvalid hfinished
  · intro c e hfault
    refine ⟨horderly.phase_of_fault hfault, ?_⟩
    intro turn hcaller
    rw [of_snoc]
    refine horderly.table_next ?_
    intro user hready
    rw [hcaller] at hready
    rcases horderly.phase_of_fault hfault with hphase | hphase
    · cases hready.symm.trans hphase
    · cases hready.symm.trans hphase
  · intro c hthree
    exact finished_of_three hthree

/-! ### Three callers -/

/-- Some callers. -/
inductive Caller where
  | alice
  | mallory
  | bob
  deriving DecidableEq

/-- Mallory spells the address of Alice differently. -/
def threeApplications : Caller → Application
  | .alice => ⟨"alice", "alice@example.org", "secret"⟩
  | .mallory => ⟨"mallory", " alice@EXAMPLE.org", "stolen"⟩
  | .bob => ⟨"bob", "bob", "secret"⟩

/-- Alice and Mallory are both ready before either is added, and Mallory comes first. -/
def malloryFirst : List (Turn Caller) :=
  [.alice, .mallory, .bob, .alice, .mallory, .mallory].map fun c => ⟨c, [], .epoch⟩

/-- Alice, who was ready first, comes too late. -/
theorem alice_is_late :
    (of plain threeApplications malloryFirst).Unique threeApplications ∧
    (of plain threeApplications malloryFirst).phase .mallory = .finished (.done ⟨1⟩) ∧
    ((of plain threeApplications (malloryFirst ++ [⟨.alice, [], .epoch⟩])).phase .alice =
        .finished (.failed .userAlreadyExists) ∧
      (of plain threeApplications (malloryFirst ++ [⟨.alice, [], .epoch⟩])).table =
        (of plain threeApplications malloryFirst).table) ∧
    ((of plain threeApplications malloryFirst).phase .bob = .begun ∨
      (of plain threeApplications malloryFirst).phase .bob =
        .finished (.failed (.invalidEmail .missingAtSymbol))) := by
  obtain ⟨hunique, -, hdecided, -, -, -, hfault, -⟩ :=
    registered_once plain threeApplications malloryFirst
  have hvalid : (threeApplications .alice).Valid _ _ := ⟨rfl, rfl, by decide⟩
  have halice := hdecided ⟨.alice, [], .epoch⟩ _ _ hvalid ⟨_, rfl⟩ (by decide)
  have hbob : (threeApplications .bob).Fault (.invalidEmail .missingAtSymbol) := .email rfl rfl
  refine ⟨hunique, rfl, halice.taken ?_, (hfault .bob _ hbob).1⟩
  intro hfree
  have hnotTaken : (of plain threeApplications malloryFirst).table.isTaken
      (accepted plain [] "secret" _ _) = false := UserTable.isTaken_eq_false_iff.mpr hfree
  exact absurd hnotTaken (by decide)

end Crowd

end OrderDesk.Accounts
