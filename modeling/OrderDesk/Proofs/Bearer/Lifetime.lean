/-
How long a token is valid.

A token that was issued makes the claims it was issued with, and nobody but the time
decides about it afterwards.  What remains is arithmetic of whole seconds: a token is
valid as long as fewer than twelve hours of them have passed, counted from the second in
which it was issued, and parts of a second play no role on either side.
-/
import OrderDesk.Proofs.Bearer.Authentic
import OrderDesk.Proofs.Time.Instant

namespace OrderDesk.Bearer

/-! ### Time -/

/-- A whole number of seconds later, in a second that is no leap second. -/
theorem after?_seconds (t : Instant) {n : Nat} (hn : n ≠ 0) :
    t.after? n 0 = Instant.ofParts? (t.seconds + n) (t.nanos % Instant.nanosPerSecond) := by
  have hnanos : t.nanos < 2 * Instant.nanosPerSecond := by
    rcases t.valid.2.2 with hlt | ⟨hlt, _⟩
    · unfold Instant.nanosPerSecond at hlt ⊢
      omega
    · exact hlt
  have hpart : (if t.isLeap then t.nanos - Instant.nanosPerSecond else t.nanos) =
      t.nanos % Instant.nanosPerSecond := by
    unfold Instant.isLeap
    unfold Instant.nanosPerSecond at hnanos ⊢
    split
    · next hleap =>
      have hle := of_decide_eq_true hleap
      omega
    · next hleap =>
      have hlt := of_decide_eq_false (Bool.not_eq_true _ ▸ hleap)
      omega
  have hsmall : t.nanos % Instant.nanosPerSecond < Instant.nanosPerSecond :=
    Nat.mod_lt _ (by decide)
  have hcarry : ((t.nanos % Instant.nanosPerSecond : Nat) : Int) / Instant.nanosPerSecond = 0 := by
    exact_mod_cast Nat.div_eq_of_lt hsmall
  rw [Instant.after?, if_neg (by simp [hn])]
  simp only [hpart, Nat.add_zero, Nat.mod_eq_of_lt hsmall, hcarry, Int.add_zero]

/-- There is an instant a lifetime later, if it lies before the end of time. -/
theorem exists_expiry {now : Instant} (h : now.seconds + lifetimeSeconds ≤ Instant.maxSecond) :
    ∃ expiresAt, now.after? lifetimeSeconds 0 = some expiresAt ∧
      expiresAt.seconds = now.seconds + lifetimeSeconds ∧
      expiresAt.nanos = now.nanos % Instant.nanosPerSecond := by
  have hvalid : Instant.Valid (now.seconds + lifetimeSeconds)
      (now.nanos % Instant.nanosPerSecond) := by
    have hmin := now.valid.1
    refine ⟨by omega, h, Or.inl (Nat.mod_lt _ (by decide))⟩
  rw [after?_seconds now (by decide), Instant.ofParts?, dif_pos hvalid]
  exact ⟨_, rfl, rfl, rfl⟩

/-- The claims of a token that is issued can be read again. -/
theorem fit_of_instants (user : UserId) (now expiresAt : Instant) :
    Claims.Fit ⟨user.value, now.seconds, expiresAt.seconds⟩ := by
  have hnow := now.valid
  have hexpiry := expiresAt.valid
  unfold Instant.Valid Instant.minSecond Instant.maxSecond at hnow hexpiry
  unfold Claims.Fit signed64
  simp only
  omega

/-- What is issued. -/
theorem issue_eq_some {key : String} {user : UserId} {now : Instant} {issued : Issued}
    (h : issue key user now = some issued) :
    now.after? lifetimeSeconds 0 = some issued.expiresAt ∧
      issued.token = sign key ⟨user.value, now.seconds, issued.expiresAt.seconds⟩ := by
  unfold issue at h
  rw [Option.map_eq_some_iff] at h
  obtain ⟨expiresAt, hexpiry, rfl⟩ := h
  exact ⟨hexpiry, rfl⟩

theorem expiry_of_issue {key : String} {user : UserId} {now : Instant} {issued : Issued}
    (h : issue key user now = some issued) :
    issued.expiresAt.seconds = now.seconds + 43200 := by
  have hexpiry := (issue_eq_some h).1
  rw [after?_seconds now (by decide)] at hexpiry
  exact (Instant.parts_of_ofParts? hexpiry).1

/-- A token is issued as long as the time at which it expires can be expressed. -/
theorem issue_eq_none_iff {key : String} {user : UserId} {now : Instant} :
    issue key user now = none ↔ Instant.maxSecond < now.seconds + 43200 := by
  constructor
  · intro hnone
    by_contra hle
    obtain ⟨expiresAt, hexpiry, -⟩ := exists_expiry (not_lt.mp hle)
    rw [issue, hexpiry] at hnone
    cases hnone
  · intro hlate
    rw [Option.eq_none_iff_forall_ne_some]
    intro issued h
    have hexpiry := expiry_of_issue h
    have hmax := issued.expiresAt.valid.2.1
    omega

/-- A token that was issued is accepted until twelve hours of whole seconds have passed. -/
theorem validate_issued {key : String} {user : UserId} {now : Instant} {issued : Issued}
    (h : issue key user now = some issued) (later : Instant) :
    validate key issued.token later =
      if later.seconds < now.seconds + 43200 then .ok user else .error .expired := by
  have hverify := verify_sign key (fit_of_instants user now issued.expiresAt)
  rw [(issue_eq_some h).2, validate_of_verify hverify, expiry_of_issue h]

/-- **A token is valid for exactly twelve hours of whole seconds.**  It is accepted as long as
fewer have passed and has expired from then on, at any time before or after, with no other
answer.  So it is never accepted at the time that was reported with it or later, and always
when that is at least a second away; and no other user and no other second gets the same
token. -/
theorem issued_token_lifetime (key : String) (user : UserId) (now : Instant)
    (h : now.seconds + lifetimeSeconds ≤ Instant.maxSecond) :
    ∃ issued, issue key user now = some issued ∧
      (issued.expiresAt.seconds = now.seconds + 43200 ∧
        issued.expiresAt.nanos = now.nanos % Instant.nanosPerSecond) ∧
      (∀ later : Instant, validate key issued.token later =
        if later.seconds < now.seconds + 43200 then .ok user else .error .expired) ∧
      (∀ later : Instant, issued.expiresAt.le later = true →
        validate key issued.token later = .error .expired) ∧
      (∀ early soon : Instant, early.after? 1 0 = some soon → soon.le issued.expiresAt = true →
        validate key issued.token early = .ok user) ∧
      ∀ (key' : String) (user' : UserId) (now' : Instant) (issued' : Issued),
        issue key' user' now' = some issued' → user' ≠ user ∨ now'.seconds ≠ now.seconds →
        issued'.token ≠ issued.token := by
  obtain ⟨expiresAt, hexpiry, hseconds, hnanos⟩ := exists_expiry h
  have hfit := fit_of_instants user now expiresAt
  have hvalidate : ∀ later : Instant,
      validate key (sign key ⟨user.value, now.seconds, expiresAt.seconds⟩) later =
        if later.seconds < now.seconds + 43200 then .ok user else .error .expired := by
    intro later
    rw [validate_of_verify (verify_sign key hfit), hseconds]
    rfl
  refine ⟨⟨sign key ⟨user.value, now.seconds, expiresAt.seconds⟩, expiresAt⟩, ?_,
    ⟨hseconds, hnanos⟩, hvalidate, ?_, ?_, ?_⟩
  · rw [issue, hexpiry]
    rfl
  · intro later hle
    have hlate := seconds_le_of_le hle
    rw [hvalidate, if_neg]
    simp only [hseconds, lifetimeSeconds] at hlate
    omega
  · intro early soon hsoon hle
    rw [after?_seconds early (by decide)] at hsoon
    have hstep := (Instant.parts_of_ofParts? hsoon).1
    have hbefore := seconds_le_of_le hle
    rw [hvalidate, if_pos]
    simp only [hseconds, hstep, lifetimeSeconds] at hbefore
    omega
  · intro key' user' now' issued' hissued hdiffers hsame
    obtain ⟨hexpiry', htoken⟩ := issue_eq_some hissued
    rw [htoken] at hsame
    have hclaims := sign_injective (fit_of_instants user' now' _) hfit hsame
    injection hclaims with huser hnow _
    rcases hdiffers with hu | hs
    · exact hu (congrArg UserId.mk huser)
    · exact hs hnow

/-- Half a second before 1970. -/
def dusk : Instant := ⟨-1, 500000000, by decide⟩

/-- A token of a user with a negative number, issued at dusk: it is accepted up to the second in
which it expires. -/
theorem lifetime_from_dusk :
    ∃ issued, issue "k" ⟨-7⟩ dusk = some issued ∧
      validate "k" issued.token ⟨43198, 999999999, by decide⟩ = .ok ⟨-7⟩ ∧
      validate "k" issued.token ⟨43199, 0, by decide⟩ = .error .expired ∧
      validate "k" issued.token ⟨43199, 500000000, by decide⟩ = .error .expired ∧
      validate "k" issued.token ⟨43198, 500000000, by decide⟩ = .ok ⟨-7⟩ ∧
      ∀ issued', issue "k" ⟨7⟩ dusk = some issued' → issued'.token ≠ issued.token := by
  obtain ⟨issued, hissue, ⟨hseconds, hnanos⟩, hvalidate, hlate, hearly, hother⟩ :=
    issued_token_lifetime "k" ⟨-7⟩ dusk (by decide)
  have hexpiry : issued.expiresAt = ⟨43199, 500000000, by decide⟩ := by
    cases hparts : issued.expiresAt
    rw [hparts] at hseconds hnanos
    simp only [Instant.mk.injEq]
    exact ⟨hseconds, hnanos⟩
  refine ⟨issued, hissue, hvalidate _, hvalidate _, hlate _ ?_, hearly _ issued.expiresAt ?_ ?_, ?_⟩
  · rw [hexpiry]
    decide
  · rw [hexpiry]
    decide
  · rw [hexpiry]
    decide
  · intro issued' hissued'
    exact hother "k" ⟨7⟩ dusk issued' hissued' (Or.inl (by decide))

end OrderDesk.Bearer
