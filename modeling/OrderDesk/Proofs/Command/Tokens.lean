/-
The tokens of the operator and the tokens of the server.

The operator issues and looks up tokens by commands, the server by requests.  Each loads its
key on its own, and the one takes a token from an argument, with whatever blanks stand around
it, the other from behind the word `Bearer` in a header.  Both judge the same text with the same
key.  So what one of them issues the other accepts, and what one of them rejects the other
rejects for the same reason.

Each command and each server measures the key anew, with a gauge of its own, and may refuse it.  But
the key that is accepted does not depend on the gauge.
-/
import OrderDesk.Command.Run
import OrderDesk.Proofs.Account.Spelling
import OrderDesk.Proofs.Action
import OrderDesk.Proofs.Api.Gate
import OrderDesk.Proofs.Bearer.Lifetime
import OrderDesk.Proofs.Settings.Loaders
import OrderDesk.Proofs.Text.Numeral

namespace OrderDesk.Command

open OrderDesk.Text

/-! ### Arguments -/

theorem after?_append (start rest : String) : after? start (start ++ rest) = some rest := by
  have hprefix : start.toList.isPrefixOf (start ++ rest).toList = true := by
    rw [List.isPrefixOf_iff_prefix, String.toList_append]
    exact List.prefix_append _ _
  rw [after?, if_pos hprefix, String.toList_append, List.drop_left, String.ofList_toList]

/-- The numeral of a user is read as that user. -/
theorem readUser_text (user : UserId) : readUser none user.text = .ok user := by
  have hread := readNumeral_intDigits (toInt_mem_signed32 user.value).1
    (toInt_mem_signed32 user.value).2
  have htext : user.text.toList = intDigits user.value.toInt := String.toList_ofList
  simp only [readUser, Option.isSome_none, Bool.false_eq_true, if_false, htext, hread,
    Int32.ofInt_toInt]

/-- Every user can be named, also one with a negative number. -/
theorem read_issue (user : UserId) :
    read ["token", "issue", "--user-id=" ++ user.text] = .ok (.run (.issueToken user)) := by
  have hchars : ("--user-id=" ++ user.text).toList = "--user-id=".toList ++ user.text.toList :=
    String.toList_append
  have hshort : ¬("--user-id=" ++ user.text = "-u" ∨ "--user-id=" ++ user.text = "--user-id") := by
    simp [← String.toList_inj, hchars]
  have hend : ("--user-id=" ++ user.text) ≠ "--" := by
    simp [← String.toList_inj, hchars]
  have hhelp : asksForHelp ("--user-id=" ++ user.text) = false := by
    simp [asksForHelp, after?, ← String.toList_inj, hchars]
  have hvalue : attachedUser? ("--user-id=" ++ user.text) = some user.text := by
    rw [attachedUser?, after?_append]
  simp only [read, readToken, readIssue, hshort, hend, hhelp, hvalue, readUser_text, if_false,
    Bool.false_eq_true, Except.bind, issueFor]

/-- Behind two hyphens everything is a token. -/
theorem read_verify (token : String) :
    read ["token", "verify", "--", token] = .ok (.run (.verifyToken token)) := by
  have hend : looksLikeOption "--" = true := by decide
  simp [read, readToken, readVerify, hend, verifyGiven]

/-- Without them everything is a token that does not begin with a hyphen. -/
theorem read_verify_plain {token : String} (h : looksLikeOption token = false) :
    read ["token", "verify", token] = .ok (.run (.verifyToken token)) := by
  simp [read, readToken, readVerify, h, verifyGiven]

/-! ### Blanks -/

/-- A text of nothing but blanks. -/
def AllBlank (s : String) : Prop := ∀ c ∈ s.toList, isBlank c = true

/-- The blanks around a token are dropped, and nothing of the token. -/
theorem trimmed_around {before token behind : String} (hbefore : AllBlank before)
    (hbehind : AllBlank behind) (h : ∀ c ∈ token.toList, Bearer.IsVisible c) :
    trimmed (before ++ token ++ behind) = token := by
  have hplain : ∀ c ∈ token.toList, isBlank c = false := fun c hc => isBlank_of_bounds (h c hc)
  rw [trimmed, String.toList_append, String.toList_append,
    trim_around hbefore hbehind hplain, String.ofList_toList]

/-! ### Keys -/

/-- The server signs with the key that the operator signs with, however each of them measures it. -/
theorem signingKey_of_load {lookup : Lookup} {gauge gauge' : Secret.Gauge}
    {settings : ServerSettings} {key : String}
    (hkey : loadSigningKey lookup gauge = .ok key)
    (hload : ServerSettings.load lookup gauge' = .ok settings) : settings.signingKey = key := by
  have hserver := loadSigningKey_eq_ok_iff.mp (tools_of_server hload).1
  exact Option.some.inj (hserver.1.symm.trans (loadSigningKey_eq_ok_iff.mp hkey).1)

/-! ### The commands -/

variable {δ : Type}

/-- The surroundings as they are for another command, at another time. -/
def Surroundings.asOf (around : Surroundings δ) (gauge : Secret.Gauge) (now : Instant) :
    Surroundings δ :=
  { around with gauge := gauge, now := now }

/-- How issuing a token for a user ends at a time. -/
def issuing (around : Surroundings δ) (gauge : Secret.Gauge) (now : Instant) (user : UserId)
    (s : δ) : Ending Failure (List String) :=
  (run (around.asOf gauge now) (.issueToken user) s).ending

/-- How looking a token up ends at a time. -/
def lookingUp (around : Surroundings δ) (gauge : Secret.Gauge) (now : Instant) (token : String)
    (s : δ) : Ending Failure (List String) :=
  (run (around.asOf gauge now) (.verifyToken token) s).ending

/-- What the operator is told about a token that is judged so. -/
def told : Except Bearer.TokenError UserId → Ending Failure (List String)
  | .ok user => .done [userLine user]
  | .error e => .failed (.token e)

/-- A command that refuses the key says so, and nothing of tokens. -/
theorem ending_of_refused {around : Surroundings δ} {gauge : Secret.Gauge} {e : SettingsError}
    (hkey : loadSigningKey around.settings gauge = .error e) (now : Instant) (s : δ) :
    (∀ user, issuing around gauge now user s = .failed (.settings e)) ∧
      ∀ token, lookingUp around gauge now token s = .failed (.settings e) := by
  refine ⟨fun user => ?_, fun token => ?_⟩
  · simp only [issuing, run, printToken, Surroundings.asOf, hkey, Except.mapError,
      Action.ofExcept]
    rfl
  · simp only [lookingUp, run, printUser, Surroundings.asOf, hkey, Except.mapError,
      Action.ofExcept]
    rfl

theorem issuing_of_none {around : Surroundings δ} {gauge : Secret.Gauge} {key : String}
    {now : Instant} {user : UserId} (hkey : loadSigningKey around.settings gauge = .ok key)
    (h : Bearer.issue key user now = none) (s : δ) :
    issuing around gauge now user s = .aborted := by
  simp only [issuing, run, printToken, Surroundings.asOf, hkey, Except.mapError, Action.ofExcept,
    Action.done_bind, h]
  rfl

theorem issuing_of_some {around : Surroundings δ} {gauge : Secret.Gauge} {key : String}
    {now : Instant} {user : UserId} {issued : Bearer.Issued}
    (hkey : loadSigningKey around.settings gauge = .ok key)
    (h : Bearer.issue key user now = some issued) (s : δ) :
    issuing around gauge now user s = .done (issuedLines issued) := by
  simp only [issuing, run, printToken, Surroundings.asOf, hkey, Except.mapError, Action.ofExcept,
    Action.done_bind, h]
  rfl

/-- Nothing decides about a token but the key, its text without the blanks around it, and the
time. -/
theorem lookingUp_eq {around : Surroundings δ} {gauge : Secret.Gauge} {key : String}
    (hkey : loadSigningKey around.settings gauge = .ok key) (now : Instant) (token : String)
    (s : δ) :
    lookingUp around gauge now token s = told (Bearer.validate key (trimmed token) now) := by
  simp only [lookingUp, run, printUser, Surroundings.asOf, hkey, Except.mapError, Action.ofExcept,
    Action.done_bind]
  cases Bearer.validate key (trimmed token) now <;> rfl

/-- The lines that show two users differ. -/
theorem userLine_injective {a b : UserId} (h : userLine a = userLine b) : a = b := by
  have htext : a.text = b.text := by
    have hchars := congrArg String.toList h
    rw [userLine, userLine, String.toList_append, String.toList_append] at hchars
    exact String.toList_inj.mp (List.append_cancel_left hchars)
  have hread := readUser_text a
  rw [htext, readUser_text] at hread
  exact (Except.ok.inj hread).symm

/-- What the operator is told says how the token was judged. -/
theorem told_eq_iff {v w : Except Bearer.TokenError UserId} : told v = told w ↔ v = w := by
  constructor
  · intro h
    rcases v with e | user <;> rcases w with e' | other
    · rw [Failure.token.inj (Ending.failed.inj h)]
    · cases h
    · cases h
    · have hlines := Ending.done.inj h
      rw [userLine_injective (List.cons.inj hlines).1]
  · exact congrArg told

/-! ### The server -/

/-- The operator and the server judge a token alike.  Both know it for the same user, or both
reject it for the same reason. -/
structure Agree (ending : Ending Failure (List String)) (caller : Except Api.ApiError UserId) :
    Prop where
  known : ∀ user, ending = .done [userLine user] ↔ caller = .ok user
  rejected : ∀ e, ending = .failed (.token e) ↔ caller = .error (.auth (.token e))
  judged : (∃ user, caller = .ok user) ∨ ∃ e, caller = .error (.auth (.token e))

/-- What the server makes of a verdict says how the token was judged, too. -/
theorem agree_of_verdict {verdict : Except Bearer.TokenError UserId}
    {caller : Except Api.ApiError UserId}
    (h : caller = (verdict.mapError AuthError.token).mapError Api.ApiError.auth) :
    Agree (told verdict) caller := by
  subst h
  refine ⟨?_, ?_, ?_⟩
  · intro user
    rw [show Ending.done [userLine user] = told (.ok user) from rfl, told_eq_iff]
    cases verdict <;> simp [Except.mapError]
  · intro e
    rw [show Ending.failed (Failure.token e) = told (.error e) from rfl, told_eq_iff]
    cases verdict <;> simp [Except.mapError]
  · cases verdict with
    | error e => exact Or.inr ⟨e, rfl⟩
    | ok user => exact Or.inl ⟨user, rfl⟩

/-! ### The two together -/

/-- A token that was issued is known for as long as fewer than twelve hours of whole seconds have
passed, whatever blanks stand around it, to every command that accepts the key. -/
theorem issuing_then_lookingUp {around : Surroundings δ} {gauge : Secret.Gauge} {key : String}
    (hkey : loadSigningKey around.settings gauge = .ok key) (user : UserId) (s : δ)
    {now : Instant} (hnow : now.seconds + 43200 ≤ Instant.maxSecond) :
    ∃ token expiresAt,
      issuing around gauge now user s =
        .done [token, "expires_at: " ++ Calendar.offsetText expiresAt] ∧
      ∀ gauge', loadSigningKey around.settings gauge' = .ok key →
        ∀ before behind, AllBlank before → AllBlank behind → ∀ later,
          lookingUp around gauge' later (before ++ token ++ behind) s =
            if later.seconds < now.seconds + 43200 then .done [userLine user]
            else .failed (.token .expired) := by
  cases hissue : Bearer.issue key user now with
  | none => exact absurd (Bearer.issue_eq_none_iff.mp hissue) (not_lt.mpr hnow)
  | some issued =>
      refine ⟨issued.token, issued.expiresAt, issuing_of_some hkey hissue s, ?_⟩
      intro gauge' hkey' before behind hbefore hbehind later
      have htoken := (Bearer.issue_eq_some hissue).2
      have hplain : trimmed (before ++ issued.token ++ behind) = issued.token := by
        rw [htoken]
        exact trimmed_around hbefore hbehind fun _ => Bearer.isVisible_of_mem_sign
      rw [lookingUp_eq hkey', hplain, Bearer.validate_issued hissue]
      by_cases hlater : later.seconds < now.seconds + 43200
      · rw [if_pos hlater, if_pos hlater]
        rfl
      · rw [if_neg hlater, if_neg hlater]
        rfl

/-- **The operator and the server agree about tokens.**  A token can be issued for every user,
unless the time at which it would expire cannot be expressed.  It is then known for that user as
long as fewer than twelve hours of whole seconds have passed, whatever blanks stand around it,
and has expired from then on.  And of every text that a header can carry as a token, issued by
anybody or made up, the operator hears at any time what a server with the same settings makes
of a request with that header: the same user, or the same reason to reject it.  Every text can be
given to the command as its argument; one that begins with a hyphen stands behind two hyphens.

The commands and the server each have a gauge of their own.  All that is asked of them is that they
accept the key; a command that does not ends by saying why. -/
theorem operator_and_server_agree (around : Surroundings δ) (s : δ) (key : String) :
    ((∀ user : UserId,
        read ["token", "issue", "--user-id=" ++ user.text] = .ok (.run (.issueToken user))) ∧
      ∀ token : String,
        read ["token", "verify", "--", token] = .ok (.run (.verifyToken token)) ∧
        (looksLikeOption token = false →
          read ["token", "verify", token] = .ok (.run (.verifyToken token)))) ∧
    (∀ gauge, loadSigningKey around.settings gauge = .ok key →
      ∀ (user : UserId) (now : Instant),
        (Instant.maxSecond < now.seconds + 43200 →
          issuing around gauge now user s = .aborted) ∧
        (now.seconds + 43200 ≤ Instant.maxSecond → ∃ token expiresAt,
          issuing around gauge now user s =
            .done [token, "expires_at: " ++ Calendar.offsetText expiresAt] ∧
          ∀ gauge', loadSigningKey around.settings gauge' = .ok key →
            ∀ before behind, AllBlank before → AllBlank behind → ∀ later,
              lookingUp around gauge' later (before ++ token ++ behind) s =
                if later.seconds < now.seconds + 43200 then .done [userLine user]
                else .failed (.token .expired))) ∧
    (∀ gauge, loadSigningKey around.settings gauge = .ok key →
      ∀ gauge' settings, ServerSettings.load around.settings gauge' = .ok settings →
      ∀ token, token ≠ "" → (∀ c ∈ token.toList, Bearer.IsVisible c) →
      ∀ r : Http.Request,
        r.header? "authorization" = some (Utf8.encode ("Bearer " ++ token)) →
        ∀ now,
          Agree (lookingUp around gauge now token s) (Api.identify settings.signingKey now r)) ∧
    ∀ gauge e, loadSigningKey around.settings gauge = .error e → ∀ now,
      (∀ user, issuing around gauge now user s = .failed (.settings e)) ∧
        ∀ token, lookingUp around gauge now token s = .failed (.settings e) := by
  refine ⟨⟨read_issue, fun token => ⟨read_verify token, read_verify_plain⟩⟩, ?_, ?_,
    fun gauge e hkey now => ending_of_refused hkey now s⟩
  · intro gauge hkey user now
    refine ⟨?_, issuing_then_lookingUp hkey user s⟩
    intro hnow
    exact issuing_of_none hkey (Bearer.issue_eq_none_iff.mpr hnow) s
  · intro gauge hkey gauge' settings hload token hne hvisible r hheader now
    have htoken : Bearer.tokenOf (r.header? "authorization") = .ok token := by
      rw [hheader, Bearer.tokenOf_bearer hne hvisible]
    have hplain : trimmed token = token := by
      have hblank : AllBlank "" := by simp [AllBlank]
      simpa using trimmed_around hblank hblank hvisible
    rw [lookingUp_eq hkey, hplain]
    exact agree_of_verdict (signingKey_of_load hkey hload ▸ Api.identify_of_token htoken)

/-! An operator and a server that share their settings. -/

/-- A key that nobody would guess. -/
def goodKey : String := "k7#Qp2!vX9@mL4$wR8^tY1&zN6*bC3%h"

/-- The settings that a server needs, and no database behind them. -/
def desk : Surroundings Unit where
  settings name :=
    [("SIGNING_KEY", goodKey), ("DATABASE_URL", "postgres://localhost")].lookup name
  now := .epoch
  account := "keeper"
  connect _ := Action.fail .lostConnection
  session :=
    { execute := fun _ => Action.fail .lostConnection
      unfinished := Action.fail .lostConnection
      applied := Action.fail .lostConnection }

/-- The settings of the server. -/
def deskSettings : ServerSettings where
  host := .v4 #v[127, 0, 0, 1]
  port := 8000
  database := ⟨.url "postgres://localhost", 10, ⟨.ofMillis 5000, .ofMillis 100⟩⟩
  signingKey := goodKey
  sentryDsn := none
  sentryEnvironment := none
  logFormat := .text

theorem load_desk : ServerSettings.load desk.settings .backward = .ok deskSettings := by
  decide +kernel

theorem loadSigningKey_desk : loadSigningKey desk.settings .forward = .ok goodKey := by
  decide +kernel

/-- A token of minus seven is known in its last second and has expired right after it, and both
sides judge a text that somebody made up alike. -/
theorem desk_agrees :
    (∃ token expiresAt,
      issuing desk .forward .epoch ⟨-7⟩ () =
        .done [token, "expires_at: " ++ Calendar.offsetText expiresAt] ∧
      lookingUp desk .backward ⟨43199, 999999999, by decide⟩ ("\u3000" ++ token ++ " \n") () =
        .done [userLine ⟨-7⟩] ∧
      lookingUp desk .forward ⟨43200, 0, by decide⟩ ("\u3000" ++ token ++ " \n") () =
        .failed (.token .expired)) ∧
    Agree (lookingUp desk .forward .epoch "made.up.token" ())
      (Api.identify goodKey .epoch
        ⟨"GET", ⟨[], []⟩, [("authorization", Utf8.encode "Bearer made.up.token")], []⟩) := by
  have hserver : loadSigningKey desk.settings .backward = .ok goodKey :=
    (tools_of_server load_desk).1
  obtain ⟨-, hissue, hagree, -⟩ := operator_and_server_agree desk () goodKey
  have hblank : AllBlank "\u3000" ∧ AllBlank " \n" := by
    simp [AllBlank, isBlank, blankRanges]
  refine ⟨?_, ?_⟩
  · obtain ⟨token, expiresAt, hissued, hknown⟩ :=
      (hissue .forward loadSigningKey_desk ⟨-7⟩ .epoch).2 (by decide)
    refine ⟨token, expiresAt, hissued, ?_, ?_⟩
    · exact hknown .backward hserver _ _ hblank.1 hblank.2 _
    · exact hknown .forward loadSigningKey_desk _ _ hblank.1 hblank.2 _
  · refine hagree .forward loadSigningKey_desk .backward deskSettings load_desk "made.up.token"
      (by decide) ?_ _ rfl .epoch
    simp [Bearer.IsVisible]

end OrderDesk.Command
