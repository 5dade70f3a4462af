/-
What an error tells about itself.

An error carries texts from wherever it arose: from the database, from the deadline of an
operation, from the library that signs tokens.  Its caller is told a status and a code, a message
that goes with them, and nothing else, so two errors with one status and one code cannot be told
apart.  The exception is a fault of the request.  There the caller is also told what is wrong with
it, in words that `Describes` gives for each such fault, and these are all the difference that
there is.

Status, message, details, log entry and report are each made by a function of their own.  They
agree because the kind of an error decides all of them: a kind is known by its code, and there are
details for one kind alone.
-/
import OrderDesk.Proofs.Api.Shape

namespace OrderDesk.Api

open OrderDesk.Http
open OrderDesk.Json (IsObject Lexeme)

/-- The error is a fault of the request, which these words describe. -/
inductive Describes : ApiError → String → Prop
  | request (text : String) : Describes (.validation text) text
  | email (cause : EmailError) :
      Describes (.auth (.invalidEmail cause)) ("invalid email: " ++ cause.message)
  | username (cause : UsernameError) :
      Describes (.auth (.invalidUsername cause)) ("invalid username: " ++ cause.message)
  | password (text : String) :
      Describes (.auth (.weakPassword text)) ("password validation failed: " ++ text)

/-- The error is no fault of the request. -/
def Inward (e : ApiError) : Prop := ∀ text, ¬Describes e text

/-! ### Kinds -/

/-- A kind is known by its code. -/
theorem code_injective {a b : ErrorKind} (h : a.code = b.code) : a = b := by
  cases a <;> cases b <;> first | rfl | exact absurd h (by decide)

theorem details_eq_some_iff {e : ApiError} {text : String} :
    e.details = some text ↔ Describes e text := by
  constructor
  · intro h
    cases e with
    | validation message =>
        obtain rfl := Option.some.inj h
        exact .request message
    | auth cause =>
        by_cases hkind : kindOfAuth cause = .validation
        · simp only [ApiError.details, if_pos hkind, Option.some.injEq] at h
          subst h
          cases cause with
          | invalidEmail cause => exact .email cause
          | invalidUsername cause => exact .username cause
          | weakPassword message => exact .password message
          | token cause => cases cause <;> cases hkind
          | store cause => cases cause <;> cases hkind
          | userAlreadyExists | invalidCredentials | passwordHash => cases hkind
        · simp only [ApiError.details, if_neg hkind] at h
          cases h
    | order cause => cases h
    | missingCredential | malformedCredential => cases h
    | internal message => cases h
  · intro h
    cases h <;> rfl

theorem kind_of_describes {e : ApiError} {text : String} (h : Describes e text) :
    e.kind = .validation := by
  rw [← details_isSome_iff, details_eq_some_iff.mpr h]
  rfl

theorem details_of_inward {e : ApiError} (h : Inward e) : e.details = none := by
  cases hdetails : e.details with
  | none => rfl
  | some text => exact absurd (details_eq_some_iff.mp hdetails) (h text)

/-! ### Members -/

/-- The members of the object that the caller is told, each of them a text. -/
def ApiError.members (e : ApiError) : List (String × String) :=
  [("error", e.kind.publicMessage), ("code", e.kind.code)] ++
    (e.details.map fun text => ("details", text)).toList

/-- The members as they are read. -/
def ApiError.told (e : ApiError) : List (String × List Lexeme) :=
  e.members.map fun m => (m.1, [.text (some m.2)])

theorem isObject_body (e : ApiError) : IsObject (Json.lexemes (Json.ofText e.body)) e.told := by
  have hbody : e.body =
      Json.writeObject (e.members.map fun m => (m.1, Json.writeText m.2)) := by
    unfold ApiError.body ApiError.members
    cases e.details <;> rfl
  rw [hbody]
  exact isObject_texts (by simp [ApiError.members])

/-- Without details, the kind is all that there is to tell. -/
theorem response_of_inward {e : ApiError} (h : Inward e) :
    e.response = .json e.kind.status (Json.writeObject
      [("error", Json.writeText e.kind.publicMessage), ("code", Json.writeText e.kind.code)]) := by
  rw [ApiError.response, ApiError.body, details_of_inward h]
  rfl

/-! ### The log and the reports -/

/-- How an error is written to the log and reported. -/
theorem entry_and_report (e : ApiError) (requestId : String) (caller : Option UserId) :
    e.entry.level = (if 500 ≤ e.kind.status then .error else .debug) ∧
      e.report requestId caller =
        if 500 ≤ e.kind.status then some ⟨e.chain, requestId, caller.map UserId.text⟩
        else none := by
  unfold ApiError.entry ApiError.report ErrorKind.isServerError
  by_cases h : 500 ≤ e.kind.status
  · simp [h]
  · simp [h]

/-- **An error tells its kind, and what is wrong with the request.**  Two errors that are no
faults of the request and have one code, and so one status, are answered alike, with a message
and the code for all members.  Faults of the request are all answered alike but for the details,
which are their description.  And whatever fails is answered with its error, which is reported
and written to the log as an error if and only if the status says that the service is at fault. -/
theorem errors_tell_their_kind :
    (∀ e₁ e₂ : ApiError, Inward e₁ → Inward e₂ → e₁.kind.code = e₂.kind.code →
      e₁.response = e₂.response ∧
        ∃ message, IsObject (Json.lexemes (Json.ofText e₁.response.body))
          [("error", [.text (some message)]), ("code", [.text (some e₁.kind.code)])]) ∧
    (∀ (e : ApiError) (text : String), Describes e text → e.response.status = 400 ∧
      IsObject (Json.lexemes (Json.ofText e.response.body))
        [("error", [.text (some "Invalid request")]),
         ("code", [.text (some "VALIDATION_ERROR")]), ("details", [.text (some text)])]) ∧
    ∀ (σ : Type) (x : Action σ ApiError Response) (requestId : String) (caller : Option UserId)
      (s : σ) (e : ApiError), (x s).ending = .failed e →
      ∃ a, (conclude requestId caller x s).ending = .done a ∧ a.response = e.response ∧
        a.report = (if 500 ≤ a.response.status then
          some ⟨e.chain, requestId, caller.map UserId.text⟩ else none) ∧
        ∃ entry, (conclude requestId caller x s).log = (x s).log ++ [entry] ∧
          entry.level = if 500 ≤ a.response.status then .error else .debug := by
  refine ⟨?_, ?_, ?_⟩
  · intro e₁ e₂ h₁ h₂ hcode
    have hkind : e₁.kind = e₂.kind := code_injective hcode
    refine ⟨by rw [response_of_inward h₁, response_of_inward h₂, hkind], ?_⟩
    have hobject := isObject_body e₁
    rw [ApiError.told, ApiError.members, details_of_inward h₁] at hobject
    exact ⟨e₁.kind.publicMessage, hobject⟩
  · intro e text h
    have hobject := isObject_body e
    rw [ApiError.told, ApiError.members, details_eq_some_iff.mpr h, kind_of_describes h]
      at hobject
    refine ⟨?_, hobject⟩
    show e.kind.status = 400
    rw [kind_of_describes h]
    rfl
  · intro σ x requestId caller s e hfailed
    obtain ⟨hlevel, hreport⟩ := entry_and_report e requestId caller
    rw [conclude_work, hfailed]
    exact ⟨⟨e.response, e.report requestId caller⟩, rfl, rfl, hreport, e.entry, rfl, hlevel⟩

/-- A pool that is exhausted and a token that cannot be signed are told alike, and the pool is
reported.  Whoever sends an address without its sign is told so. -/
theorem pool_and_signature_alike :
    ApiError.response (.internal "pool exhausted at 10.0.0.5") =
      ApiError.response (.auth (.token (.signing "no such key"))) ∧
    IsObject
      (Json.lexemes (Json.ofText
        (ApiError.response (.auth (.invalidEmail .missingAtSymbol))).body))
      [("error", [.text (some "Invalid request")]), ("code", [.text (some "VALIDATION_ERROR")]),
       ("details", [.text (some "invalid email: email must contain an @ symbol")])] ∧
    ∃ a, (conclude "r" none
        (Action.fail (.internal "pool exhausted at 10.0.0.5") : Action Unit ApiError Response)
        ()).ending = .done a ∧
      a.report = some ⟨["Internal error: pool exhausted at 10.0.0.5"], "r", none⟩ := by
  obtain ⟨hsame, hfault, hconclude⟩ := errors_tell_their_kind
  have hpool : Inward (.internal "pool exhausted at 10.0.0.5") := by
    rintro text ⟨⟩
  have hsigning : Inward (.auth (.token (.signing "no such key"))) := by
    rintro text ⟨⟩
  refine ⟨(hsame _ _ hpool hsigning rfl).1, (hfault _ _ (.email .missingAtSymbol)).2, ?_⟩
  obtain ⟨a, ha, -, hreport, -⟩ := hconclude Unit
    (Action.fail (.internal "pool exhausted at 10.0.0.5")) "r" none () _ rfl
  cases ha
  exact ⟨_, rfl, hreport⟩

end OrderDesk.Api
