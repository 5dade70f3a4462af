/-
Bodies of requests are read by what their fields hold.

Each kind of body is a record, and `Says` tells without a reader what the values of its fields
mean: strings for the fields of an account, the name of a status for an order.  A body is read as
what it says, and refused if it says nothing.  So the order of the members, members of other
names, blanks and escapes make no difference, and no field may come twice.

Every key must have a text, also one that no field has: a text with half a character in a key is
refused, though the grammar of JSON allows it.
-/
import OrderDesk.Api.Body
import OrderDesk.Proofs.Json.Content
import OrderDesk.Proofs.Json.Spelled

namespace OrderDesk.Api

open OrderDesk.Json
open OrderDesk.Text (hexValue?)

/-- The kinds of bodies that requests carry. -/
inductive RequestBody where
  | signUp
  | signIn
  | createOrder
  | updateOrder
  deriving DecidableEq, Repr

namespace RequestBody

/-- What a body is read as. -/
abbrev Content : RequestBody → Type
  | .signUp => SignUp
  | .signIn => SignIn
  | .createOrder => CreateOrder
  | .updateOrder => UpdateOrder

/-- The fields of a body. -/
def record : RequestBody → Record
  | .signUp => signUpRecord
  | .signIn => signInRecord
  | .createOrder => createOrderRecord
  | .updateOrder => updateOrderRecord

/-- Read a body. -/
def decode : (body : RequestBody) → List (Option Char) → Except Refusal body.Content
  | .signUp => SignUp.decode
  | .signIn => SignIn.decode
  | .createOrder => CreateOrder.decode
  | .updateOrder => UpdateOrder.decode

end RequestBody

/-! ### What a body says -/

/-- A status is named by its word, or by an object with the word as its only key and `null` as the
value. -/
inductive NamesStatus : Tree → OrderStatus → Prop where
  | word (s : OrderStatus) : NamesStatus (.text (some s.text)) s
  | member (s : OrderStatus) : NamesStatus (.object [(some s.text, .null)]) s

/-- What the values of the fields say. -/
def RequestBody.Says : (body : RequestBody) → (String → List Tree) → body.Content → Prop
  | .signUp, values, c =>
    values "email" = [.text (some c.email)] ∧ values "password" = [.text (some c.password)] ∧
      values "username" = [.text (some c.username)]
  | .signIn, values, c =>
    values "username" = [.text (some c.username)] ∧ values "password" = [.text (some c.password)]
  | .createOrder, values, c =>
    (values "status" = [] ∧ c.status = .pending) ∨
      ∃ t, values "status" = [t] ∧ NamesStatus t c.status
  | .updateOrder, values, c =>
    ((values "status" = [] ∨ values "status" = [.null]) ∧ c.status = none) ∨
      ∃ t s, values "status" = [t] ∧ NamesStatus t s ∧ c.status = some s

/-- The order of the values of a field makes no difference, because there is no more than one. -/
theorem RequestBody.Says.of_perm {body : RequestBody} {values values' : String → List Tree}
    {c : body.Content} (hvalues : ∀ f ∈ body.record.fields, (values f.name).Perm (values' f.name))
    (h : body.Says values c) : body.Says values' c := by
  have hnone : ∀ {f}, f ∈ body.record.fields → values f.name = [] → values' f.name = [] :=
    fun hf hvalue => List.nil_perm.mp (hvalue ▸ hvalues _ hf)
  have hone : ∀ {f t}, f ∈ body.record.fields → values f.name = [t] → values' f.name = [t] :=
    fun hf hvalue => (List.singleton_perm.mp (hvalue ▸ hvalues _ hf)).symm
  cases body with
  | signUp =>
      obtain ⟨hemail, hpassword, husername⟩ := h
      exact ⟨hone (f := .must "email") (by decide) hemail,
        hone (f := .must "password") (by decide) hpassword,
        hone (f := .must "username") (by decide) husername⟩
  | signIn =>
      obtain ⟨husername, hpassword⟩ := h
      exact ⟨hone (f := .must "username") (by decide) husername,
        hone (f := .must "password") (by decide) hpassword⟩
  | createOrder =>
      rcases h with ⟨habsent, hstatus⟩ | ⟨t, hvalue, hnames⟩
      · exact Or.inl ⟨hnone (f := .may "status") (by decide) habsent, hstatus⟩
      · exact Or.inr ⟨t, hone (f := .may "status") (by decide) hvalue, hnames⟩
  | updateOrder =>
      rcases h with ⟨habsent | hnull, hstatus⟩ | ⟨t, s, hvalue, hnames, hstatus⟩
      · exact Or.inl ⟨Or.inl (hnone (f := .may "status") (by decide) habsent), hstatus⟩
      · exact Or.inl ⟨Or.inr (hone (f := .may "status") (by decide) hnull), hstatus⟩
      · exact Or.inr ⟨t, s, hone (f := .may "status") (by decide) hvalue, hnames, hstatus⟩

/-- No field holds two values. -/
theorem RequestBody.Says.length_le_one {body : RequestBody} {values : String → List Tree}
    {c : body.Content} (h : body.Says values c) :
    ∀ f ∈ body.record.fields, (values f.name).length ≤ 1 := by
  cases body with
  | signUp =>
      obtain ⟨hemail, hpassword, husername⟩ := h
      simp [record, signUpRecord, Field.must, hemail, hpassword, husername]
  | signIn =>
      obtain ⟨husername, hpassword⟩ := h
      simp [record, signInRecord, Field.must, husername, hpassword]
  | createOrder =>
      rcases h with ⟨hvalue, _⟩ | ⟨t, hvalue, _⟩ <;>
        simp [record, createOrderRecord, Field.may, hvalue]
  | updateOrder =>
      rcases h with ⟨hvalue | hvalue, _⟩ | ⟨t, s, hvalue, _⟩ <;>
        simp [record, updateOrderRecord, Field.may, hvalue]

/-! ### Reading one field -/

theorem readText_lexemes {t : Tree} {s : String} :
    readText t.lexemes = .ok s ↔ t = .text (some s) := by
  rw [readText_eq_ok t.isValue_lexemes]
  exact Tree.lexemes_eq_iff (by rw [Tree.lexemes])

theorem lookup_statusChoices {word : String} {s : OrderStatus} :
    statusChoices.lookup word = some s ↔ word = s.text := by
  constructor
  · intro h
    obtain ⟨before, after, hsplit, _⟩ := List.lookup_eq_some_iff.mp h
    have hmem : (word, s) ∈ statusChoices := by
      rw [hsplit]
      simp
    obtain ⟨s', _, hs'⟩ := List.mem_map.mp hmem
    cases hs'
    rfl
  · rintro rfl
    cases s <;> rfl

theorem namesStatus_iff {t : Tree} {s : OrderStatus} :
    NamesStatus t s ↔ t = .text (some s.text) ∨ t = .object [(some s.text, .null)] := by
  constructor
  · rintro (_ | _)
    · exact Or.inl rfl
    · exact Or.inr rfl
  · rintro (rfl | rfl)
    · exact .word s
    · exact .member s

theorem readStatus_lexemes {t : Tree} {s : OrderStatus} :
    readStatus t.lexemes = .ok s ↔ NamesStatus t s := by
  have hword : ∀ word, t.lexemes = [.text (some word)] ↔ t = .text (some word) :=
    fun word => Tree.lexemes_eq_iff (by rw [Tree.lexemes])
  have hmember : ∀ word, t.lexemes = objectLexemes [(some word, [.null])] ↔
      t = .object [(some word, .null)] :=
    fun word => Tree.lexemes_eq_iff (by simp [Tree.lexemes])
  rw [readStatus, readChoice_eq_ok t.isValue_lexemes, namesStatus_iff]
  simp only [hword, hmember, lookup_statusChoices, exists_eq_left]

theorem readOptional_status_lexemes {t : Tree} {got : Option OrderStatus} :
    readOptional readStatus t.lexemes = .ok got ↔
      (t = .null ∧ got = none) ∨ ∃ s, NamesStatus t s ∧ got = some s := by
  have hnull : t.lexemes = [.null] ↔ t = .null := Tree.lexemes_eq_iff (by rw [Tree.lexemes])
  have hstatus : ∀ s, NamesStatus t s → t ≠ .null := by
    rintro s (_ | _) ⟨⟩
  rw [readOptional_eq_ok t.isValue_lexemes, Ne, hnull]
  simp only [readStatus_lexemes]
  refine or_congr_right ⟨And.right, ?_⟩
  rintro ⟨s, hs, rfl⟩
  exact ⟨hstatus s hs, s, hs, rfl⟩

/-! ### Reading the fields of a body -/

/-- A required field is read as the string that it holds. -/
theorem text_of_holds {r : Record} {members : List (Option String × Tree)} {seen : Members String}
    (h : Holds r (fun _ => readText) members fun name => seen.lookup name) {f : Field}
    (hf : f ∈ r.fields) (hmust : f.required = true) :
    valuesOf members f.name = [.text (some (textOf seen f.name))] := by
  have htaken := h.taken f.name (has_of_mem hf)
  rcases taken_none_iff.mp htaken with ⟨_, hnone⟩ | ⟨t, s, hvalue, hread, hsome⟩
  · exact absurd hnone (h.required f hf hmust)
  · rw [hvalue, readText_lexemes.mp hread, textOf, hsome]
    rfl

/-- Strings are read, if each field holds one. -/
theorem holds_of_texts {r : Record} {members : List (Option String × Tree)}
    (hkeys : ∀ m ∈ members, m.1 ≠ none) (texts : String → String)
    (h : ∀ f ∈ r.fields, valuesOf members f.name = [.text (some (texts f.name))]) :
    Holds r (fun _ => readText) members fun name => some (texts name) where
  keys := hkeys
  taken := by
    intro name hhas
    obtain ⟨f, hf, hname⟩ := List.any_eq_true.mp hhas
    obtain rfl := eq_of_beq hname
    rw [h f hf]
    exact .value (readText_lexemes.mpr rfl)
  required := by simp

/-- A record of strings, none of which may be left out, is read as these strings. -/
theorem takeObject_texts {r : Record} (hmust : ∀ f ∈ r.fields, f.required = true)
    {members : List (Option String × Tree)} (texts : String → String) :
    (∃ seen, takeObject r (fun _ => readText) members = .ok seen ∧
        ∀ f ∈ r.fields, textOf seen f.name = texts f.name) ↔
      (∀ m ∈ members, m.1 ≠ none) ∧
        ∀ f ∈ r.fields, valuesOf members f.name = [.text (some (texts f.name))] := by
  constructor
  · rintro ⟨seen, htake, htexts⟩
    have hholds := holds_of_takeObject htake
    refine ⟨hholds.keys, fun f hf => ?_⟩
    rw [text_of_holds hholds hf (hmust f hf), htexts f hf]
  · rintro ⟨hkeys, hvalues⟩
    obtain ⟨seen, htake, hsame⟩ := takeObject_of_holds (holds_of_texts hkeys texts hvalues)
    refine ⟨seen, htake, fun f hf => ?_⟩
    rw [textOf, hsame f.name (has_of_mem hf)]
    rfl

/-- A record whose only field may be left out is read as that field. -/
theorem takeObject_may {α : Type} (title name : String) (read : Reader α)
    (members : List (Option String × Tree)) (P : Option α → Prop) :
    (∃ seen, takeObject ⟨title, [.may name]⟩ (fun _ => read) members = .ok seen ∧
        P (seen.lookup name)) ↔
      (∀ m ∈ members, m.1 ≠ none) ∧ ∃ got, Taken read (valuesOf members name) none got ∧ P got := by
  have hknown : ∀ name', (⟨title, [.may name]⟩ : Record).has name' = true ↔ name = name' := by
    simp [Record.has, Field.may]
  constructor
  · rintro ⟨seen, htake, hP⟩
    have hholds := holds_of_takeObject htake
    exact ⟨hholds.keys, _, hholds.taken name ((hknown name).mpr rfl), hP⟩
  · rintro ⟨hkeys, got, htaken, hP⟩
    have hholds : Holds ⟨title, [.may name]⟩ (fun _ => read) members fun _ => got := by
      refine ⟨hkeys, ?_, by simp [Field.may]⟩
      intro name' hhas
      obtain rfl := (hknown name').mp hhas
      exact htaken
    obtain ⟨seen, htake, hsame⟩ := takeObject_of_holds hholds
    exact ⟨seen, htake, (hsame name ((hknown name).mpr rfl)).symm ▸ hP⟩

namespace RequestBody

/-- What a field of a body is read as. -/
abbrev Part : RequestBody → Type
  | .signUp | .signIn => String
  | .createOrder => OrderStatus
  | .updateOrder => Option OrderStatus

/-- The reader of a field. -/
def read : (body : RequestBody) → String → Reader body.Part
  | .signUp, _ | .signIn, _ => readText
  | .createOrder, _ => readStatus
  | .updateOrder, _ => readOptional readStatus

/-- Put the fields together. -/
def build : (body : RequestBody) → Members body.Part → body.Content
  | .signUp, seen => ⟨textOf seen "email", textOf seen "password", textOf seen "username"⟩
  | .signIn, seen => ⟨textOf seen "username", textOf seen "password"⟩
  | .createOrder, seen => ⟨(seen.lookup "status").getD .initial⟩
  | .updateOrder, seen => ⟨(seen.lookup "status").join⟩

theorem decode_eq (body : RequestBody) (source : List (Option Char)) :
    body.decode source = (decodeRecord body.record body.read source).map body.build := by
  cases body <;> rfl

theorem read_local (body : RequestBody) (name : String) : Local (body.read name) := by
  cases body with
  | signUp => exact readText_local
  | signIn => exact readText_local
  | createOrder => exact readChoice_local
  | updateOrder => exact readOptional_local readChoice_local

theorem nodup_names (body : RequestBody) : (body.record.fields.map Field.name).Nodup := by
  cases body <;> decide

theorem says_createOrder {values : String → List Tree} {c : CreateOrder} :
    createOrder.Says values c ↔
      ∃ got, Taken readStatus (values "status") none got ∧
        CreateOrder.mk (got.getD .initial) = c := by
  obtain ⟨status⟩ := c
  simp only [Says, taken_none_iff, readStatus_lexemes, CreateOrder.mk.injEq]
  constructor
  · rintro (⟨habsent, rfl⟩ | ⟨t, hvalue, hnames⟩)
    · exact ⟨none, Or.inl ⟨habsent, rfl⟩, rfl⟩
    · exact ⟨some status, Or.inr ⟨t, status, hvalue, hnames, rfl⟩, rfl⟩
  · rintro ⟨got, ⟨habsent, rfl⟩ | ⟨t, s, hvalue, hnames, rfl⟩, rfl⟩
    · exact Or.inl ⟨habsent, rfl⟩
    · exact Or.inr ⟨t, hvalue, hnames⟩

theorem says_updateOrder {values : String → List Tree} {c : UpdateOrder} :
    updateOrder.Says values c ↔ ∃ got, Taken (readOptional readStatus) (values "status") none got ∧
      UpdateOrder.mk got.join = c := by
  obtain ⟨status⟩ := c
  simp only [Says, taken_none_iff, readOptional_status_lexemes, UpdateOrder.mk.injEq]
  constructor
  · rintro (⟨habsent | hnull, rfl⟩ | ⟨t, s, hvalue, hnames, rfl⟩)
    · exact ⟨none, Or.inl ⟨habsent, rfl⟩, rfl⟩
    · exact ⟨some none, Or.inr ⟨.null, none, hnull, Or.inl ⟨rfl, rfl⟩, rfl⟩, rfl⟩
    · exact ⟨some (some s), Or.inr ⟨t, some s, hvalue, Or.inr ⟨s, hnames, rfl⟩, rfl⟩, rfl⟩
  · rintro ⟨got, ⟨habsent, rfl⟩ | ⟨t, read, hvalue, ⟨rfl, rfl⟩ | ⟨s, hnames, rfl⟩, rfl⟩, rfl⟩
    · exact Or.inl ⟨Or.inl habsent, rfl⟩
    · exact Or.inl ⟨Or.inr hvalue, rfl⟩
    · exact Or.inr ⟨t, s, hvalue, hnames, rfl⟩

/-- **An object is read as what its fields say.** -/
theorem build_takeObject (body : RequestBody) {members : List (Option String × Tree)}
    {c : body.Content} :
    (∃ seen, takeObject body.record body.read members = .ok seen ∧ body.build seen = c) ↔
      (∀ m ∈ members, m.1 ≠ none) ∧ body.Says (valuesOf members) c := by
  cases body with
  | signUp =>
      let texts (name : String) : String :=
        if name = "email" then c.email else if name = "password" then c.password else c.username
      have hbuild : ∀ seen, build .signUp seen = c ↔
          ∀ f ∈ signUpRecord.fields, textOf seen f.name = texts f.name := by
        intro seen
        cases c
        simp [build, signUpRecord, Field.must, texts]
      have hsays : signUp.Says (valuesOf members) c ↔ ∀ f ∈ signUpRecord.fields,
          valuesOf members f.name = [.text (some (texts f.name))] := by
        simp [Says, signUpRecord, Field.must, texts]
      simp only [hbuild, hsays]
      exact takeObject_texts (by decide) texts
  | signIn =>
      let texts (name : String) : String := if name = "password" then c.password else c.username
      have hbuild : ∀ seen, build .signIn seen = c ↔
          ∀ f ∈ signInRecord.fields, textOf seen f.name = texts f.name := by
        intro seen
        cases c
        simp [build, signInRecord, Field.must, texts]
      have hsays : signIn.Says (valuesOf members) c ↔ ∀ f ∈ signInRecord.fields,
          valuesOf members f.name = [.text (some (texts f.name))] := by
        simp [Says, signInRecord, Field.must, texts]
      simp only [hbuild, hsays]
      exact takeObject_texts (by decide) texts
  | createOrder =>
      rw [says_createOrder]
      exact takeObject_may _ "status" readStatus members fun got =>
        CreateOrder.mk (got.getD .initial) = c
  | updateOrder =>
      rw [says_updateOrder]
      exact takeObject_may _ "status" (readOptional readStatus) members fun got =>
        UpdateOrder.mk got.join = c

theorem decode_eq_ok (body : RequestBody) {source : List (Option Char)} {c : body.Content} :
    body.decode source = .ok c ↔
      ∃ seen, decodeRecord body.record body.read source = .ok seen ∧ body.build seen = c := by
  rw [decode_eq]
  cases decodeRecord body.record body.read source <;> simp [Except.map]

theorem decode_object (body : RequestBody) {text : String} {members : List (Option String × Tree)}
    (h : Spells text.toList (.object members)) {c : body.Content} :
    body.decode (ofText text) = .ok c ↔
      (∀ m ∈ members, m.1 ≠ none) ∧ body.Says (valuesOf members) c := by
  rw [decode_eq_ok, ofText, decodeRecord_object body.read_local (lexemes_of_spells h)]
  exact body.build_takeObject

theorem decode_array (body : RequestBody) {text : String} {members : List (Option String × Tree)}
    {elements : List Tree} (h : Spells text.toList (.array elements))
    (hlists : ListsFields body.record.fields members elements) {c : body.Content} :
    body.decode (ofText text) = .ok c ↔ body.Says (valuesOf members) c := by
  have hne : body.record.fields ≠ [] := by cases body <;> decide
  have hsame := hlists.valuesOf_membersOf body.nodup_names
  have hkeys := keys_membersOf body.record.fields elements
  rw [decode_eq_ok, ofText]
  simp only [decodeRecord_array body.read_local body.nodup_names hne hlists (lexemes_of_spells h)]
  rw [build_takeObject, and_iff_right hkeys]
  exact ⟨Says.of_perm fun f hf => .of_eq (hsame f hf),
    Says.of_perm fun f hf => .of_eq (hsame f hf).symm⟩

/-- A member whose name is a text, but that of no field. -/
def Foreign (body : RequestBody) (m : Option String × Tree) : Prop :=
  ∃ name, m.1 = some name ∧ body.record.has name = false

theorem valuesOf_foreign {body : RequestBody} {more : List (Option String × Tree)}
    (h : ∀ m ∈ more, body.Foreign m) {f : Field} (hf : f ∈ body.record.fields) :
    valuesOf more f.name = [] := by
  rw [valuesOf, List.map_eq_nil_iff, List.filter_eq_nil_iff]
  intro m hm
  obtain ⟨name, hname, hhas⟩ := h m hm
  rw [hname, decide_eq_true_eq]
  rintro ⟨⟩
  rw [has_of_mem hf] at hhas
  cases hhas

end RequestBody

/-- **Bodies are read by what their fields hold.**  The text of an object is read if every key has
a text and the values of the fields say something, and as what they say.  No field may come twice.
An object of the same members and members that no field has the name of, in any order and in any
spelling, is read alike.  And an array of the values of all fields in order says what they say. -/
theorem bodies_are_read_by_content (body : RequestBody) {text : String}
    {members : List (Option String × Tree)} (h : Spells text.toList (.object members)) :
    (∀ c, body.decode (ofText text) = .ok c ↔
      (∀ m ∈ members, m.1 ≠ none) ∧ body.Says (valuesOf members) c) ∧
    (∀ f ∈ body.record.fields, 2 ≤ (valuesOf members f.name).length →
      ∀ c, body.decode (ofText text) ≠ .ok c) ∧
    (∀ (text' : String) (members' more : List (Option String × Tree)),
      Spells text'.toList (.object members') → members'.Perm (members ++ more) →
      (∀ m ∈ more, body.Foreign m) →
      ∀ c, body.decode (ofText text') = .ok c ↔ body.decode (ofText text) = .ok c) ∧
    ∀ (text' : String) (elements : List Tree), Spells text'.toList (.array elements) →
      ListsFields body.record.fields members elements →
      ∀ c, body.decode (ofText text') = .ok c ↔ body.Says (valuesOf members) c := by
  refine ⟨fun c => body.decode_object h, ?_, ?_, ?_⟩
  · intro f hf htwice c hdecode
    have honce := ((body.decode_object h).mp hdecode).2.length_le_one f hf
    omega
  · intro text' members' more h' hperm hforeign c
    have hvalues : ∀ f ∈ body.record.fields,
        (valuesOf members' f.name).Perm (valuesOf members f.name) := by
      intro f hf
      have hall := valuesOf_perm hperm f.name
      rwa [valuesOf_append, RequestBody.valuesOf_foreign hforeign hf, List.append_nil] at hall
    have hmore : ∀ m ∈ more, m.1 ≠ none := by
      intro m hm hnone
      obtain ⟨name, hname, _⟩ := hforeign m hm
      rw [hnone] at hname
      cases hname
    have hkeys : (∀ m ∈ members', m.1 ≠ none) ↔ ∀ m ∈ members, m.1 ≠ none := by
      simp only [hperm.mem_iff, List.forall_mem_append]
      exact and_iff_left hmore
    rw [body.decode_object h', body.decode_object h, hkeys]
    exact and_congr_right fun _ => ⟨.of_perm hvalues, .of_perm fun f hf => (hvalues f hf).symm⟩
  · exact fun text' elements h' hlists c => body.decode_array h' hlists

/-! An order is created that is paid. -/

theorem spells_statuses (words : List String) (hne : words ≠ []) :
    Spells (writeObject (words.map fun word => ("status", writeText word))).toList
      (.object (words.map fun word => (some "status", .text (some word)))) := by
  have hwords : ∀ m ∈ words.map fun word => ("status", writeText word, Tree.text (some word)),
      Spells m.2.1.toList m.2.2 :=
    List.forall_mem_map.mpr fun word _ => spells_writeText word
  have hobject := spells_writeObject hwords (by simpa using hne)
  simpa [List.map_map, Function.comp_def] using hobject

/-- A key with an escape in it. -/
theorem spells_status : Spells ['"', 's', 't', '\\', 'u', '0', '0', '6', '1', 't', 'u', 's', '"']
    (.text (some "status")) := by
  have hzero : hexValue? '0' = some 0 := rfl
  have hsix : hexValue? '6' = some 6 := rfl
  have hone : hexValue? '1' = some 1 := rfl
  have hend : SpellsUnits ['t', 'u', 's'] [116, 117, 115] :=
    .plain (by decide) (.plain (by decide) (.plain (by decide) .nil))
  have hescape : SpellsUnits ['\\', 'u', '0', '0', '6', '1', 't', 'u', 's'] [97, 116, 117, 115] :=
    .digits hzero hzero hsix hone hend
  have hunits : SpellsUnits ['s', 't', '\\', 'u', '0', '0', '6', '1', 't', 'u', 's']
      [115, 116, 97, 116, 117, 115] :=
    .plain (by decide) (.plain (by decide) hescape)
  have hchars : (charsOf [115, 116, 97, 116, 117, 115]).map String.ofList = some "status" := by
    decide +kernel
  rw [← hchars]
  exact .text hunits

/-- The same with blanks and an escape, and with a note. -/
theorem spells_paid_and_noted :
    Spells "\x7b \"note\" : [[\x7b\x7d]],\"st\\u0061tus\":\"paid\"\x7d".toList
      (.object [(some "note", .array [.array [.object []]]),
        (some "status", .text (some "paid"))]) := by
  have hblank : AreBlanks [' '] := by simp [AreBlanks]
  have hnote : Spells ([' '] ++ (writeText "note").toList ++ [' ']) (.text (some "note")) :=
    .blanks hblank hblank (spells_writeText "note")
  have hvalue : Spells ([' '] ++ ['[', '[', '\x7b', '\x7d', ']', ']'] ++ [])
      (.array [.array [.object []]]) :=
    .blanks hblank areBlanks_nil (Spells.emptyObject areBlanks_nil).singleton.singleton
  let note : SpelledMember := ⟨[' '] ++ (writeText "note").toList ++ [' '], some "note",
    [' '] ++ ['[', '[', '\x7b', '\x7d', ']', ']'] ++ [], .array [.array [.object []]]⟩
  let status : SpelledMember := ⟨"\"st\\u0061tus\"".toList, some "status",
    (writeText "paid").toList, .text (some "paid")⟩
  have hkeys : ∀ m ∈ [note, status], Spells m.keyText (.text m.key) :=
    List.forall_mem_cons.mpr ⟨hnote, List.forall_mem_singleton.mpr spells_status⟩
  have hvalues : ∀ m ∈ [note, status], Spells m.valueText m.value :=
    List.forall_mem_cons.mpr ⟨hvalue, List.forall_mem_singleton.mpr (spells_writeText "paid")⟩
  exact Spells.object (List.cons_ne_nil note [status]) hkeys hvalues

/-- The status is read from three texts, but not from one that gives it twice. -/
theorem paid_is_read_three_times :
    CreateOrder.decode (ofText "\x7b\"status\":\"paid\"\x7d") = .ok ⟨.paid⟩ ∧
    CreateOrder.decode (ofText "\x7b \"note\" : [[\x7b\x7d]],\"st\\u0061tus\":\"paid\"\x7d") =
      .ok ⟨.paid⟩ ∧
    CreateOrder.decode (ofText "[\"paid\"]") = .ok ⟨.paid⟩ ∧
    ∀ c, CreateOrder.decode (ofText "\x7b\"status\":\"paid\",\"status\":\"paid\"\x7d") ≠ .ok c := by
  have hone : Spells "\x7b\"status\":\"paid\"\x7d".toList
      (.object [(some "status", .text (some "paid"))]) := spells_statuses ["paid"] (by simp)
  have htwo : Spells "\x7b\"status\":\"paid\",\"status\":\"paid\"\x7d".toList
      (.object [(some "status", .text (some "paid")), (some "status", .text (some "paid"))]) :=
    spells_statuses ["paid", "paid"] (by simp)
  have helements : Spells "[\"paid\"]".toList (.array [.text (some "paid")]) :=
    (spells_writeText "paid").singleton
  obtain ⟨hread, -, hmore, harray⟩ := bodies_are_read_by_content .createOrder hone
  obtain ⟨-, htwice, -, -⟩ := bodies_are_read_by_content .createOrder htwo
  have hsays : RequestBody.createOrder.Says (valuesOf [(some "status", .text (some "paid"))])
      ⟨.paid⟩ := Or.inr ⟨_, rfl, .word .paid⟩
  have hfirst := (hread ⟨.paid⟩).mpr ⟨by simp, hsays⟩
  refine ⟨hfirst, (hmore _ _ _ spells_paid_and_noted (List.Perm.swap _ _ _) ?_ _).mpr hfirst,
    (harray _ _ helements (.cons rfl .nil) _).mpr hsays, htwice (.may "status") (by decide) ?_⟩
  · exact List.forall_mem_singleton.mpr ⟨"note", rfl, by decide⟩
  · simp [valuesOf, Field.may]

/-! Carol signs in, with a member more whose key is half a character. -/

/-- What the text says. -/
def carolWithHalf : List (Option String × Tree) :=
  [(none, .number ⟨false, ['0'], [], none⟩), (some "username", .text (some "carol")),
    (some "password", .text (some "sesame"))]

theorem spells_carolWithHalf :
    Spells "\x7b\"\\ud800\":0,\"username\":\"carol\",\"password\":\"sesame\"\x7d".toList
      (.object carolWithHalf) := by
  have hd : hexValue? 'd' = some 13 := rfl
  have height : hexValue? '8' = some 8 := rfl
  have hzero : hexValue? '0' = some 0 := rfl
  have hhalf : Spells "\"\\ud800\"".toList (.text none) :=
    .text (.digits hd height hzero hzero .nil)
  have hnumber : Spells ['0'] (.number ⟨false, ['0'], [], none⟩) :=
    .number ⟨Or.inl rfl, [], [], .absent, .absent, rfl⟩
  let half : SpelledMember := ⟨"\"\\ud800\"".toList, none, ['0'],
    .number ⟨false, ['0'], [], none⟩⟩
  let username : SpelledMember := ⟨(writeText "username").toList, some "username",
    (writeText "carol").toList, .text (some "carol")⟩
  let password : SpelledMember := ⟨(writeText "password").toList, some "password",
    (writeText "sesame").toList, .text (some "sesame")⟩
  have hkeys : ∀ m ∈ [half, username, password], Spells m.keyText (.text m.key) :=
    List.forall_mem_cons.mpr ⟨hhalf, List.forall_mem_cons.mpr ⟨spells_writeText "username",
      List.forall_mem_singleton.mpr (spells_writeText "password")⟩⟩
  have hvalues : ∀ m ∈ [half, username, password], Spells m.valueText m.value :=
    List.forall_mem_cons.mpr ⟨hnumber, List.forall_mem_cons.mpr ⟨spells_writeText "carol",
      List.forall_mem_singleton.mpr (spells_writeText "sesame")⟩⟩
  exact Spells.object (List.cons_ne_nil half _) hkeys hvalues

/-- **A key with half a character is refused**, though no field has its name and each field holds
what it should: the same fields are read without it. -/
theorem half_a_character_is_no_key :
    Spells "\x7b\"\\ud800\":0,\"username\":\"carol\",\"password\":\"sesame\"\x7d".toList
      (.object carolWithHalf) ∧
    (∀ f ∈ signInRecord.fields, (valuesOf carolWithHalf f.name).length = 1) ∧
    RequestBody.signIn.Says (valuesOf carolWithHalf) ⟨"carol", "sesame"⟩ ∧
    SignIn.decode (ofText "\x7b\"username\":\"carol\",\"password\":\"sesame\"\x7d") =
      .ok ⟨"carol", "sesame"⟩ ∧
    SignIn.decode
      (ofText "\x7b\"\\ud800\":0,\"username\":\"carol\",\"password\":\"sesame\"\x7d") =
      .error .malformed :=
  ⟨spells_carolWithHalf, by decide, ⟨rfl, rfl⟩, by decide +kernel, by decide +kernel⟩

end OrderDesk.Api
