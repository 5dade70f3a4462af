/-
What a refused body shows of a password.

A body that cannot be read is answered with what is wrong with it, and what is wrong with a
value may be put into words that repeat the value.  A password is read as a string, so a
string is never repeated, and of an array or an object only its kind is named.  But a number
that stands in the place of a password is shown in full.

Bodies that differ in nothing but the value of the password are one text with a gap, filled in
two ways, and `Gap.refusal?_fill` says all that can become of them.

A report is cut.  In full it also says of a malformed text what is wrong with it, and in which line
and column the decoder stopped, counted in bytes.  The decoder stops in front of an array or an
object and behind a number or a word, and it goes on behind a string, which cannot hold the end of
a line.  So where the two values take as many bytes and the decoder comes to their ends, what is cut
off is the same as well.
-/
import OrderDesk.Proofs.Api.Discretion
import OrderDesk.Proofs.Json.Spelled
import OrderDesk.Proofs.Json.Values

namespace OrderDesk.Api

open OrderDesk.Http
open OrderDesk.Json
open OrderDesk.Text

/-! ### Passwords of other kinds -/

/-- The kinds of values. -/
inductive Kind where
  | null
  | truth
  | number
  | text
  | array
  | object
  deriving DecidableEq, Repr

/-- The kind of a value. -/
def kindOf : Tree → Kind
  | .null => .null
  | .bool _ => .truth
  | .number _ => .number
  | .text _ => .text
  | .array _ => .array
  | .object _ => .object

/-- The decoder comes to the end of the value: a string has a text, and a number can be
expressed. -/
def Expressible : Tree → Prop
  | .text s => s.isSome
  | .number n => n.toInt?.isSome ∨ n.toFloat?.isSome
  | _ => True

/-- What is wrong with a number in the place of a password: the number. -/
def quoting (n : Number) : Refusal :=
  match n.toInt? with
  | some i => .mismatch [.field "password"] (.invalidType (.integer i) "a string")
  | none =>
    match n.toFloat? with
    | some f => .mismatch [.field "password"] (.invalidType (.float (Shortest.text f)) "a string")
    | none => .malformed

theorem refusal?_readText_number (n : Number) :
    (refusal? (readText [.number n])).map (Refusal.under (.field "password")) =
      some (quoting n) := by
  simp only [readText, refuse, found, quoting]
  cases n.toInt? with
  | some i => rfl
  | none => cases n.toFloat? <;> rfl

/-- Values of one kind are refused alike, unless they are numbers or different truth values. -/
theorem refusal?_readText_congr {t u : Tree} (hkind : kindOf t = kindOf u)
    (hnumber : kindOf t ≠ .number) (ht : Expressible t) (hu : Expressible u)
    (htruth : ∀ b c, t = .bool b → u = .bool c → b = c) :
    refusal? (readText t.lexemes) = refusal? (readText u.lexemes) := by
  cases t with
  | number n => exact absurd rfl hnumber
  | bool b =>
      cases u with
      | bool c => rw [htruth b c rfl rfl]
      | _ => cases hkind
  | text s =>
      cases u with
      | text s' =>
          obtain ⟨_, rfl⟩ := Option.isSome_iff_exists.mp ht
          obtain ⟨_, rfl⟩ := Option.isSome_iff_exists.mp hu
          rw [Tree.lexemes, Tree.lexemes]
          rfl
      | _ => cases hkind
  | null =>
      cases u with
      | null => rfl
      | _ => cases hkind
  | array elements =>
      cases u with
      | array elements' =>
          rw [Tree.lexemes, Tree.lexemes]
          rfl
      | _ => cases hkind
  | object members =>
      cases u with
      | object members' =>
          rw [Tree.lexemes, Tree.lexemes]
          rfl
      | _ => cases hkind

/-! ### Bodies with a password -/

/-- The bodies that carry a password. -/
inductive Form where
  | signUp
  | signIn
  deriving DecidableEq, Repr

namespace Form

/-- What the body is sent for. -/
def endpoint : Form → Endpoint
  | .signUp => .signUp
  | .signIn => .signIn

/-- The fields of the body. -/
def record : Form → Record
  | .signUp => signUpRecord
  | .signIn => signInRecord

/-- Why the text of a body is refused, if it is. -/
def fault? : Form → List (Option Char) → Option Refusal
  | .signUp, source => refusal? (SignUp.decode source)
  | .signIn, source => refusal? (SignIn.decode source)

theorem fault?_eq (form : Form) (source : List (Option Char)) :
    form.fault? source = refusal? (decodeRecord form.record (fun _ => readText) source) := by
  cases form with
  | signUp => exact refusal?_map _ _
  | signIn => exact refusal?_map _ _

theorem has_password (form : Form) : form.record.has "password" = true := by
  cases form <;> rfl

/-- Two ways to fill the gap of a password are refused alike, or each for what is wrong with it. -/
theorem fault?_fill (form : Form) (g : Gap "password") {value₁ value₂ : List (Option Char)}
    (h₁ : g.Fits value₁) (h₂ : g.Fits value₂) :
    form.fault? (g.fill value₁) = form.fault? (g.fill value₂) ∨
      ∃ otherwise,
        form.fault? (g.fill value₁) = ((refusal? (readText (lexemes value₁))).map
          (Refusal.under (.field "password"))).or otherwise ∧
        form.fault? (g.fill value₂) = ((refusal? (readText (lexemes value₂))).map
          (Refusal.under (.field "password"))).or otherwise := by
  simp only [fault?_eq]
  rcases g.refusal?_fill (fun _ => readText_local) form.has_password with
    ⟨e, hfill⟩ | ⟨otherwise, hfill⟩
  · rw [hfill value₁ h₁, hfill value₂ h₂]
    exact Or.inl rfl
  · exact Or.inr ⟨otherwise, hfill value₁ h₁, hfill value₂ h₂⟩

end Form

/-- A request with this text as its body, and the application that it is sent to. -/
structure Sent (form : Form) (source : List (Option Char)) (σ : Type) where
  services : Services σ
  occasion : Occasion
  state : σ
  request : Request
  route_eq : route request.target.path request.method = .found form.endpoint
  saysJson : request.saysJson = true
  length_le : request.body.length ≤ maxBodyBytes
  body_eq : Utf8.decode request.body = source

/-- What is shown to somebody whose body is refused. -/
def shownRefusal (e : Refusal) : Nat × String :=
  (400, (ApiError.validation (refusalText e)).body)

namespace Sent

variable {form : Form} {source : List (Option Char)} {σ : Type}

/-- What the sender is shown. -/
def shown (a : Sent form source σ) : Ending Empty (Nat × String) :=
  (serve a.services a.occasion a.request a.state).ending.map Answer.shown

/-- **A body that is refused is answered with what is wrong with it**, and with nothing else. -/
theorem shown_of_fault (a : Sent form source σ) {e : Refusal} (h : form.fault? source = some e) :
    a.shown = .done (shownRefusal e) := by
  have habout : AboutAccounts a.request := by
    have hroute := a.route_eq
    cases form with
    | signUp => exact Or.inl hroute
    | signIn => exact Or.inr hroute
  have hbody : ∀ {β : Type} (decode : List (Option Char) → Except Refusal β),
      decode source = .error e →
      readBody decode a.request = .error (.validation (refusalText e)) := by
    intro β decode hdecode
    rw [readBody, if_neg (by simp [a.saysJson]), if_neg (Nat.not_lt_of_le a.length_le), a.body_eq,
      hdecode]
    rfl
  have hwork : (work a.services a.occasion a.request a.state).ending =
      .failed (.validation (refusalText e)) := by
    have hroute := a.route_eq
    cases form with
    | signUp =>
        rw [work, hroute]
        simp only [Form.endpoint, signUp, hbody SignUp.decode (refusal?_eq_some.mp h)]
        rfl
    | signIn =>
        rw [work, hroute]
        simp only [Form.endpoint, signIn, hbody SignIn.decode (refusal?_eq_some.mp h)]
        rfl
  rw [shown, shown_serve, hwork, shownOf_of_ne (method_of_accounts habout)]
  rfl

end Sent

/-- Bodies that are refused for the same reason are answered alike. -/
theorem shown_congr {form : Form} {source₁ source₂ : List (Option Char)} {σ τ : Type}
    (a₁ : Sent form source₁ σ) (a₂ : Sent form source₂ τ)
    (hrefused : form.fault? source₁ ≠ none) (hsame : form.fault? source₁ = form.fault? source₂) :
    a₁.shown = a₂.shown := by
  obtain ⟨e, he⟩ := Option.ne_none_iff_exists'.mp hrefused
  rw [a₁.shown_of_fault he, a₂.shown_of_fault (hsame ▸ he)]

/-- **A refused body shows nothing of a password but a number.**  Two bodies are refused that
differ in nothing but the value of the password.  Both values are of one kind, take as many bytes,
and are such that the decoder comes to their ends, so that the reports agree in what is cut off.  If
the values are no numbers, the two answers show the same.  Of two numbers, the answers show the
same or each shows its own number. -/
theorem refused_bodies_show_numbers_only (form : Form) (g : Gap "password") {value₁ value₂ : String}
    {t₁ t₂ : Tree} (h₁ : g.Holds value₁ t₁) (h₂ : g.Holds value₂ t₂)
    (hexpressible₁ : Expressible t₁) (hexpressible₂ : Expressible t₂)
    (hkind : kindOf t₁ = kindOf t₂) (hsize : value₁.utf8ByteSize = value₂.utf8ByteSize) {σ τ : Type}
    (a₁ : Sent form (g.fill (ofText value₁)) σ) (a₂ : Sent form (g.fill (ofText value₂)) τ)
    (hrefused : form.fault? (g.fill (ofText value₁)) ≠ none) :
    (kindOf t₁ ≠ .number → a₁.shown = a₂.shown) ∧
    ∀ m n, t₁ = .number m → t₂ = .number n →
      a₁.shown = a₂.shown ∨ (a₁.shown = .done (shownRefusal (quoting m)) ∧
        a₂.shown = .done (shownRefusal (quoting n))) := by
  rcases form.fault?_fill g h₁.fits h₂.fits with hsame | ⟨otherwise, hfault₁, hfault₂⟩
  · have hshown := shown_congr a₁ a₂ hrefused hsame
    exact ⟨fun _ => hshown, fun _ _ _ _ => Or.inl hshown⟩
  · rw [h₁.lexemes] at hfault₁
    rw [h₂.lexemes] at hfault₂
    refine ⟨fun hnumber => ?_, ?_⟩
    · have htruth : ∀ b c, t₁ = .bool b → t₂ = .bool c → b = c := by
        rintro b c rfl rfl
        exact h₁.bool_inj h₂ hsize
      refine shown_congr a₁ a₂ hrefused ?_
      rw [hfault₁, hfault₂,
        refusal?_readText_congr hkind hnumber hexpressible₁ hexpressible₂ htruth]
    · rintro m n rfl rfl
      rw [Tree.lexemes, refusal?_readText_number] at hfault₁ hfault₂
      exact Or.inr ⟨a₁.shown_of_fault hfault₁, a₂.shown_of_fault hfault₂⟩

/-! Eve asks to be registered, with something in the place of the password. -/

/-- The body, with what stands in the place of the name, and a gap in the place of the password. -/
def eveAs (name : String) : Gap "password" where
  before := ofText "\x7b\"email\":\"eve@example.org\",\"password\":"
  after := ofText (",\"username\":" ++ name ++ "\x7d")
  members := [(some "email", [.text (some "eve@example.org")])]
  values := by
    intro m hm
    rw [List.mem_singleton.mp hm]
    exact .text _
  lexemes_before := by decide +kernel

/-- The request with this in the place of the name and that in the place of the password. -/
def eveSends (name value : String) : Request :=
  registering ("\x7b\"email\":\"eve@example.org\",\"password\":" ++
    (value ++ (",\"username\":" ++ name ++ "\x7d")))

/-- The request, sent to the services that Alice has registered with. -/
def eveTries (name value : String) (h : (eveSends name value).body.length ≤ maxBodyBytes) :
    Sent .signUp ((eveAs name).fill (ofText value)) Tables where
  services := atDaybreak
  occasion := daybreak
  state := withAlice
  request := eveSends name value
  route_eq := by
    show route (Utf8.encode "/auth/sign-up") "POST" = .found .signUp
    decide +kernel
  saysJson := by
    show (registering "").saysJson = true
    decide +kernel
  length_le := h
  body_eq := by
    show Utf8.decode (Utf8.encode _) = _
    rw [Utf8.decode_encode]
    simp only [Gap.fill, eveAs, ofText, String.toList_append, List.map_append]

theorem apart_eveAs (name : String) : Apart (eveAs name).after := by
  intro c hc
  have hhead : (eveAs name).after.head? = some (some ',') := by
    simp [eveAs, ofText]
  rw [hhead] at hc
  cases hc
  simp [ContinuesNumber, isDigit]

/-- A string as it is written. -/
theorem holds_text {name : String} (s : String) :
    (eveAs name).Holds (writeText s) (.text (some s)) where
  spells := spells_writeText s
  first := by
    rintro c hc
    rw [writeText, String.toList_ofList] at hc
    cases hc
    simp [AreBlanks]
  last := by
    intro c hc
    rw [writeText, String.toList_ofList, List.getLast?_concat] at hc
    cases hc
    simp [AreBlanks]
  apart := by
    rintro n ⟨⟩

/-- A number of digits only. -/
def ofDigits (ds : List Char) : Number := ⟨false, ds, [], none⟩

theorem holds_digits {name s : String} (h : AreDigits s.toList)
    (hlead : s.toList.head? ≠ some '0') :
    (eveAs name).Holds s (.number (ofDigits s.toList)) where
  spells := .number ⟨Or.inr ⟨h, hlead⟩, [], [], .absent, .absent, by simp [ofDigits]⟩
  first := by
    intro c hc hblank
    have hdigit := h.2 c (List.mem_of_head? hc)
    rcases hblank c List.mem_cons_self with rfl | rfl | rfl | rfl <;> cases hdigit
  last := by
    intro c hc hblank
    have hdigit := h.2 c (List.mem_of_getLast? hc)
    rcases hblank c List.mem_cons_self with rfl | rfl | rfl | rfl <;> cases hdigit
  apart := fun _ _ => apart_eveAs name

/-- It is not shown which string is given for a password, where the name is a number. -/
theorem sesame_is_not_shown :
    (eveTries "7" "\"sesame\"" (by decide +kernel)).shown =
      (eveTries "7" "\"hunter\"" (by decide +kernel)).shown := by
  have hsesame : (eveAs "7").Holds "\"sesame\"" (.text (some "sesame")) := holds_text "sesame"
  have hhunter : (eveAs "7").Holds "\"hunter\"" (.text (some "hunter")) := holds_text "hunter"
  obtain ⟨halike, -⟩ := refused_bodies_show_numbers_only .signUp (eveAs "7") hsesame hhunter rfl rfl
    rfl (by decide +kernel) (eveTries "7" "\"sesame\"" (by decide +kernel))
    (eveTries "7" "\"hunter\"" (by decide +kernel)) (by decide +kernel)
  exact halike (by decide)

/-- An integer in the place of a password. -/
def integerRefusal (n : Int) : Refusal :=
  .mismatch [.field "password"] (.invalidType (.integer n) "a string")

/-- **A number is shown.**  Two registrations that differ in nothing but the number in the place of
the password, of the same length, are refused with different answers. -/
theorem number_is_shown :
    (eveAs "\"eve\"").Holds "12345678" (.number (ofDigits "12345678".toList)) ∧
    (eveAs "\"eve\"").Holds "87654321" (.number (ofDigits "87654321".toList)) ∧
    Expressible (.number (ofDigits "12345678".toList)) ∧
    Expressible (.number (ofDigits "87654321".toList)) ∧
    "12345678".utf8ByteSize = "87654321".utf8ByteSize ∧
    Form.signUp.fault? ((eveAs "\"eve\"").fill (ofText "12345678")) =
      some (integerRefusal 12345678) ∧
    Form.signUp.fault? ((eveAs "\"eve\"").fill (ofText "87654321")) =
      some (integerRefusal 87654321) ∧
    (eveTries "\"eve\"" "12345678" (by decide +kernel)).shown ≠
      (eveTries "\"eve\"" "87654321" (by decide +kernel)).shown := by
  have hfault₁ : Form.signUp.fault? ((eveAs "\"eve\"").fill (ofText "12345678")) =
      some (integerRefusal 12345678) := by decide +kernel
  have hfault₂ : Form.signUp.fault? ((eveAs "\"eve\"").fill (ofText "87654321")) =
      some (integerRefusal 87654321) := by decide +kernel
  have hdiffer : shownRefusal (integerRefusal 12345678) ≠
      shownRefusal (integerRefusal 87654321) := by decide +kernel
  have hdigits : AreDigits "12345678".toList ∧ AreDigits "87654321".toList := by
    simp [AreDigits, isDigit]
  refine ⟨holds_digits hdigits.1 (by decide), holds_digits hdigits.2 (by decide),
    Or.inl (by decide), Or.inl (by decide), by decide +kernel, hfault₁, hfault₂, ?_⟩
  rw [Sent.shown_of_fault _ hfault₁, Sent.shown_of_fault _ hfault₂]
  exact fun hsame => hdiffer (Ending.done.inj hsame)

end OrderDesk.Api
