/-
What is written is read back.

Names, addresses, words for a status and numbers leave the service in three forms: as a text for
people, as JSON for clients, and as a value for the database.  Each form has its own reader, and
the reader trusts nobody; it judges what it gets as if it came from outside.  So a value that was
accepted once has to pass again when it comes back, and must not be changed a second time.

That it does comes down to one fact about each type: the text of a value is read as that value.
The JSON form of a text adds that whatever has to be escaped is read as what it was, and the same
holds for the messages in answers, which may be any text at all.
-/
import OrderDesk.Api.Body
import OrderDesk.Proofs.Json.Written
import OrderDesk.Proofs.Postgres.Users

namespace OrderDesk.Api

open OrderDesk.Json
open OrderDesk.Text
open OrderDesk.Postgres (Answered Cell Codec Connection LeadsTo People ReadAs Returns Unspoilt
  UserCall filled returns unspoilt userStore)

/-! ### The forms of a value -/

/-- How values of a type are written, and how they are read. -/
structure Forms (ε α : Type) where
  text : α → String
  parse : String → Except ε α
  writeJson : α → String
  readJson : Reader α
  codec : Codec α

/-- A value is read from each of its forms; in the database it is this cell. -/
structure Forms.RoundTrips {ε α : Type} (forms : Forms ε α) (a : α) (cell : Cell) : Prop where
  text : forms.parse (forms.text a) = .ok a
  json : decodeValue forms.readJson (ofText (forms.writeJson a)) = .ok a
  sent : (forms.codec.encode a).cell = .ok cell
  received : ∀ columnType ∈ forms.codec.columnTypes, forms.codec.receive columnType cell = .ok a

def emailForms : Forms EmailError Email where
  text := Email.text
  parse := Email.parse
  writeJson e := writeText e.text
  readJson := readParsed Email.parse EmailError.message
  codec := Postgres.emailCodec

def usernameForms : Forms UsernameError Username where
  text := Username.text
  parse := Username.parse
  writeJson name := writeText name.text
  readJson := readParsed Username.parse UsernameError.message
  codec := Postgres.usernameCodec

def statusForms : Forms String OrderStatus where
  text := OrderStatus.text
  parse s := (OrderStatus.ofText? s).elim (.error (OrderStatus.unknownMessage s)) .ok
  writeJson status := writeText status.text
  readJson := readStatus
  codec := Postgres.statusCodec

def userIdForms : Forms NumeralError UserId where
  text := UserId.text
  parse := UserId.parse
  writeJson id := writeInt id.value.toInt
  readJson := readUserId
  codec := Postgres.userIdCodec

def orderIdForms : Forms NumeralError OrderId where
  text := OrderId.text
  parse := OrderId.parse
  writeJson id := writeInt id.value.toInt
  readJson := readOrderId
  codec := Postgres.orderIdCodec

/-! ### Texts -/

section Text

variable {ε α : Type} {text : α → String} {parse : String → Except ε α} {report : ε → String}
  {a : α}

theorem decodeValue_readParsed {s : String} (h : parse s = .ok a) :
    decodeValue (readParsed parse report) (ofText (writeText s)) = .ok a := by
  refine decodeValue_of_isLexed (isLexed_writeText s) (.text _) ?_
  simp [readParsed, readText, h]

/-- A column of texts gives a value back. -/
theorem receive_textCodec (h : parse (text a) = .ok a) {columnType : String}
    (hcolumn : columnType ∈ Postgres.textTypes) :
    (Postgres.textCodec text parse report).receive columnType (.text (text a)) = .ok a := by
  have hholds : (Postgres.textCodec text parse report).columnTypes.contains columnType = true :=
    List.contains_iff_mem.mpr hcolumn
  rw [Codec.receive, if_neg (fun hrefused => hrefused.2 hholds)]
  simp [Postgres.textCodec, Postgres.readText, h, Except.mapError]

end Text

theorem ofText?_text (status : OrderStatus) : OrderStatus.ofText? status.text = some status := by
  cases status <;> rfl

theorem decodeValue_readStatus (status : OrderStatus) :
    decodeValue readStatus (ofText (writeText status.text)) = .ok status := by
  refine decodeValue_of_isLexed (isLexed_writeText _) (.text _) ?_
  cases status <;> rfl

/-- **An address is read from each of its forms.** -/
theorem email_roundTrips (e : Email) : emailForms.RoundTrips e (.text e.text) where
  text := Email.parse_text e
  json := decodeValue_readParsed (Email.parse_text e)
  sent := rfl
  received := fun _ hcolumn => receive_textCodec (Email.parse_text e) hcolumn

/-- **A name is read from each of its forms.** -/
theorem username_roundTrips (name : Username) :
    usernameForms.RoundTrips name (.text name.text) where
  text := Username.parse_text name
  json := decodeValue_readParsed (Username.parse_text name)
  sent := rfl
  received := fun _ hcolumn => receive_textCodec (Username.parse_text name) hcolumn

/-- **A status is read from each of its forms.** -/
theorem status_roundTrips (status : OrderStatus) :
    statusForms.RoundTrips status (.text status.text) := by
  have hparse : statusForms.parse status.text = .ok status := by
    simp [statusForms, ofText?_text]
  exact {
    text := hparse
    json := decodeValue_readStatus status
    sent := rfl
    received := fun _ hcolumn => receive_textCodec hparse hcolumn }

/-! ### Numbers -/

/-- There are no blanks in a numeral. -/
theorem isBlank_of_mem_intDigits {n : Int} {c : Char} (h : c ∈ intDigits n) :
    isBlank c = false := by
  have hsign : c = '-' ∨ isDigit c = true := by
    cases n with
    | ofNat n => exact .inr (isDigit_of_mem_natDigits h)
    | negSucc n =>
        obtain rfl | h := List.mem_cons.mp h
        · exact .inl rfl
        · exact .inr (isDigit_of_mem_natDigits h)
  -- whatever stands in a numeral may stand in a name
  refine Username.isBlank_of_isAllowed ?_
  obtain rfl | hdigit := hsign
  · rfl
  · simp [Username.isAllowed, hdigit]

/-- The numeral of a number is read as the number. -/
theorem parseInt32_int32Text (n : Int32) : parseInt32 (int32Text n) = .ok n := by
  have hplain : trim (intDigits n.toInt) = intDigits n.toInt :=
    trim_of_plain fun _ hc => isBlank_of_mem_intDigits hc
  obtain ⟨hlow, hhigh⟩ := toInt_mem_signed32 n
  rw [parseInt32, int32Text, intText, String.toList_ofList, hplain,
    readNumeral_intDigits hlow hhigh, Except.map, Int32.ofInt_toInt]

theorem parse_userIdText (id : UserId) : UserId.parse id.text = .ok id := by
  rw [UserId.parse, UserId.text, parseInt32_int32Text]
  rfl

theorem parse_orderIdText (id : OrderId) : OrderId.parse id.text = .ok id := by
  rw [OrderId.parse, OrderId.text, parseInt32_int32Text]
  rfl

theorem readInt32_numberOf (n : Int32) (behind : List Lexeme) :
    readInt32 ([.number (numberOf n.toInt)] ++ behind) = .ok n := by
  rw [readInt32, readInt_numberOf (by decide) (by decide) (toInt_mem_signed32 n), Except.map,
    Int32.ofInt_toInt]

/-- A number of a type of its own is read from JSON, if it is one of thirty-two bits. -/
theorem decodeValue_readInt32 {α : Type} (make : Int32 → α) (n : Int32) :
    decodeValue (fun ls => (readInt32 ls).map make) (ofText (writeInt n.toInt)) =
      .ok (make n) := by
  refine decodeValue_of_isLexed (isLexed_writeInt n.toInt) (.number _) ?_
  have hread := readInt32_numberOf n []
  rw [List.append_nil] at hread
  rw [hread, Except.map]

/-- A column of numbers gives a value back. -/
theorem receive_numberCodec {α : Type} (number : α → Int32) (make : Int32 → α) (n : Int32)
    {columnType : String} (hcolumn : columnType ∈ ["int4"]) :
    (Postgres.numberCodec number make).receive columnType (.int n) = .ok (make n) := by
  have hholds : (Postgres.numberCodec number make).columnTypes.contains columnType = true :=
    List.contains_iff_mem.mpr hcolumn
  rw [Codec.receive, if_neg (fun hrefused => hrefused.2 hholds)]
  rfl

/-- **The number of a user is read from each of its forms.** -/
theorem userId_roundTrips (id : UserId) : userIdForms.RoundTrips id (.int id.value) where
  text := by
    simp only [userIdForms]
    exact parse_userIdText id
  json := decodeValue_readInt32 UserId.mk id.value
  sent := rfl
  received := fun _ hcolumn => receive_numberCodec UserId.value UserId.mk id.value hcolumn

/-- **The number of an order is read from each of its forms.** -/
theorem orderId_roundTrips (id : OrderId) : orderIdForms.RoundTrips id (.int id.value) where
  text := by
    simp only [orderIdForms]
    exact parse_orderIdText id
  json := decodeValue_readInt32 OrderId.mk id.value
  sent := rfl
  received := fun _ hcolumn => receive_numberCodec OrderId.value OrderId.mk id.value hcolumn

/-! ### Answers -/

/-- The members of an answer with a number and a word. -/
def createdMembers (id : Int32) (message : String) : List (String × String × List Lexeme) :=
  [("id", writeInt id.toInt, [.number (numberOf id.toInt)]),
   ("message", writeText message, [.text (some message)])]

theorem decodeRecord_writeCreated (name : String) (id : Int32) (message : String) :
    decodeRecord ⟨name, [.must "id", .must "message"]⟩ readCreatedPart
        (ofText (writeCreated id message)) =
      .ok [("message", .message message), ("id", .id id)] := by
  refine @decodeRecord_writeObject _ _ _ _ (createdMembers id message) ?_
    (by simp [createdMembers]) ?_ rfl
  · intro m hm
    simp only [createdMembers, List.mem_cons, List.not_mem_nil, or_false] at hm
    obtain rfl | rfl := hm
    · exact isLexed_writeInt _
    · exact isLexed_writeText _
  · refine .cons (.number _) (fun behind => .known rfl rfl ?_)
      (.cons (.text _) (fun behind => .known rfl rfl rfl) (.nil _))
    rw [readCreatedPart, if_pos rfl, readInt32_numberOf, Except.map]

/-- **The answer to a registration is read as what was written.** -/
theorem decode_encodeUserCreated (r : Created UserId) :
    decodeUserCreated (ofText (encodeUserCreated r)) = .ok r := by
  rw [decodeUserCreated, encodeUserCreated, decodeRecord_writeCreated]
  rfl

/-- **The answer to a new order is read as what was written.** -/
theorem decode_encodeOrderCreated (r : Created OrderId) :
    decodeOrderCreated (ofText (encodeOrderCreated r)) = .ok r := by
  rw [decodeOrderCreated, encodeOrderCreated, decodeRecord_writeCreated]
  rfl

/-- **An answer that is only a word is read as that word.** -/
theorem decode_encodeMessage (m : Message) : Message.decode (ofText m.encode) = .ok m := by
  have hrecord : decodeRecord ⟨"MessageResponse", [.must "message"]⟩ (fun _ => readText)
      (ofText m.encode) = .ok [("message", m.message)] := by
    refine @decodeRecord_writeObject _ _ _ _
      [("message", writeText m.message, [.text (some m.message)])] ?_ (by simp) ?_ rfl
    · intro member hmember
      obtain rfl := List.mem_singleton.mp hmember
      exact isLexed_writeText _
    · exact .cons (.text _) (fun behind => .known rfl rfl rfl) (.nil _)
  rw [Message.decode, hrecord]
  rfl

/-! ### Everything that is written -/

/-- **Whatever is written is read back.**  A value of the domain is read from each of its forms,
an answer from its JSON text, and a user from the row that was written for them, which is never
spoilt. -/
theorem written_is_read {connection : Connection People} (h : LeadsTo connection)
    (policy : QueryPolicy) :
    (∀ e : Email, emailForms.RoundTrips e (.text e.text)) ∧
      (∀ name : Username, usernameForms.RoundTrips name (.text name.text)) ∧
      (∀ status : OrderStatus, statusForms.RoundTrips status (.text status.text)) ∧
      (∀ id : UserId, userIdForms.RoundTrips id (.int id.value)) ∧
      (∀ id : OrderId, orderIdForms.RoundTrips id (.int id.value)) ∧
      (∀ r : Created UserId, decodeUserCreated (ofText (encodeUserCreated r)) = .ok r) ∧
      (∀ r : Created OrderId, decodeOrderCreated (ofText (encodeOrderCreated r)) = .ok r) ∧
      (∀ m : Message, Message.decode (ofText m.encode) = .ok m) ∧
      (∀ (calls : List UserCall) (name : Username),
        Unspoilt calls name ((userStore connection policy).findByUsername name
          (filled connection policy calls)).ending) ∧
      ∀ (before later : List UserCall) (user : NewUser) (id : UserId),
        ((userStore connection policy).create user
          (filled connection policy before)).ending = .done id →
        let db := filled connection policy (before ++ .create user :: later)
        let search := (userStore connection policy).findByUsername user.username db
        Returns id user search.ending ∧
          (Answered connection policy (.findUser user.username) db →
            ∃ u, search.ending = .done u) :=
  ⟨email_roundTrips, username_roundTrips, status_roundTrips, userId_roundTrips,
    orderId_roundTrips, decode_encodeUserCreated, decode_encodeOrderCreated, decode_encodeMessage,
    unspoilt policy h, fun before later _ _ hdone => returns policy h before later hdone⟩

/-- A connection that never fails, to a database where it is always the beginning of 2000. -/
def dependable : Connection People := fun statement db =>
  ((db.serve 0 statement).1, some .zero, (db.serve 0 statement).2)

/-- A user with an address that has to be escaped. -/
def carol : NewUser where
  username := ⟨"carol", ⟨List.all_eq_true.mp rfl, by decide, by decide⟩⟩
  email := ⟨"c\"\\", "example.org", {
    localPart_ne_nil := by decide
    domain_ne_nil := by decide
    localPart_plain := List.all_eq_true.mp rfl
    domain_plain := List.all_eq_true.mp rfl
    domain_lower := List.map_inj_left.mp rfl
    byteLength_le := by decide }⟩
  passwordHash := "hash"

/-- Carol is added, and then somebody who takes her name is not. -/
theorem carol_comes_back :
    LeadsTo dependable ∧
      ∃ u, ((userStore dependable .usual).findByUsername carol.username
          (filled dependable .usual [.find carol.username, .create carol,
            .create { carol with passwordHash := "stolen" }])).ending = .done u ∧
        ReadAs u ⟨1⟩ carol := by
  have hleads : LeadsTo dependable := fun _ _ => ⟨0, by decide, .answered⟩
  obtain ⟨-, -, -, -, -, -, -, -, -, hreturns⟩ := written_is_read hleads .usual
  obtain ⟨hsame, hfound⟩ := hreturns [.find carol.username]
    [.create { carol with passwordHash := "stolen" }] carol ⟨1⟩ rfl
  obtain ⟨u, hu⟩ := hfound ⟨0, .zero, by decide, by decide, rfl⟩
  exact ⟨hleads, u, hu, hsame.same u hu⟩

end OrderDesk.Api
