/-
Numbers in texts, from the settings to the orders.

The number of an order comes with a request as a text, and so do the numbers among the settings.
They are all read in one way, and `Reads` says to what a text comes.  A number that does not fit
is refused and does not become another number that does:

    /order/+02           the second order
    /order/4294967298    no order, though its last thirty-two bits are those of two

A request that has the number of an order in its path or in its query has it at one place, and
the text there decides.  If it is the numeral of a number of thirty-two bits, the one call that
is made of the store is about the order with this number.  If it is not, nothing is done.
-/
import OrderDesk.Proofs.Api.Gate
import OrderDesk.Proofs.Api.RoundTrips
import OrderDesk.Proofs.Settings.Checks
import OrderDesk.Proofs.Text.Faults

namespace OrderDesk

open OrderDesk.Text

/-! ### Settings -/

namespace Lookup

variable {lookup : Lookup} {bits : Nat} {name other : String}

/-- A number among the settings is the number of the numeral. -/
theorem number_eq_ok_iff_reads {n : Nat} :
    lookup.number bits name other = .ok n ↔
      Reads (.unsigned bits) (lookup.orElse name other).toList (.ok n) := by
  rw [number_eq_ok_iff, ← readNumeral_iff (zero_mem_unsigned bits), readNumeral_unsigned_eq_ok_iff]
  refine and_congr_right fun _ => ?_
  constructor
  · intro hlt
    exact ⟨Int.natCast_nonneg n, by exact_mod_cast hlt⟩
  · rintro ⟨-, hlt⟩
    exact_mod_cast hlt

/-- What is wrong with it is told as it was found. -/
theorem number_eq_error_iff {e : SettingsError} :
    lookup.number bits name other = .error e ↔
      ∃ fault, Reads (.unsigned bits) (lookup.orElse name other).toList (.error fault) ∧
        e = .invalid name fault.message := by
  simp only [← readNumeral_iff (zero_mem_unsigned bits)]
  rw [number, parsed]
  cases readNumeral (.unsigned bits) (lookup.orElse name other).toList with
  | ok n => simp [Except.map, Except.mapError]
  | error fault => simp [Except.map, Except.mapError, eq_comm]

end Lookup

namespace Api

open OrderDesk.Http

/-! ### Requests that name an order -/

/-- The order that is meant, if it is only one. -/
def Wish.order? : Wish → Option OrderId
  | .create _ | .list => none
  | .get id | .update id _ | .delete id => some id

/-- The text that the request has where it has the number of an order. -/
inductive Names (r : Request) (text : String) : OrderRequest → Prop
  | getByQuery (h : readQuery r = .ok ⟨some text⟩) : Names r text .getByQuery
  | getByPath {part : List UInt8} (h : Utf8.decode? (Url.percentDecode part) = some text) :
      Names r text (.getByPath part)
  | update {part : List UInt8} (h : Utf8.decode? (Url.percentDecode part) = some text) :
      Names r text (.update part)
  | delete {part : List UInt8} (h : Utf8.decode? (Url.percentDecode part) = some text) :
      Names r text (.delete part)

/-- The user gets what is wanted: the store of orders is called for it, and what comes back is
shown. -/
def Granted {σ : Type} (services : Services σ) (occasion : Occasion) (r : Request)
    (user : UserId) (wish : Wish) : Prop :=
  ∀ s,
    let q := wish.request occasion.now user
    let call := q.call.on services.orders.store s
    (serve services occasion r s).ending.map Answer.shown =
        (answerTo q call.ending).map (shownOf r) ∧
      (serve services occasion r s).state = call.state

/-- Whoever sends the request is told why nothing is done, and nothing is. -/
def Declined {σ : Type} (services : Services σ) (occasion : Occasion) (r : Request)
    (why : ApiError) : Prop :=
  ∀ s, (serve services occasion r s).ending.map Answer.shown =
      .done (shownOf r why.response) ∧
    (serve services occasion r s).state = s

variable {σ : Type} {services : Services σ} {occasion : Occasion} {r : Request} {user : UserId}
  {what : OrderRequest} {text : String} {id : OrderId} {fault : NumeralError}

/-- The number of a numeral is that of one order. -/
theorem parse_of_reads (h : Reads .signed32 (trim text.toList) (.ok id.value.toInt)) :
    OrderId.parse text = .ok id := by
  obtain ⟨id', hparse, hvalue⟩ := map_eq_ok (OrderId.parse_iff.mpr h)
  have hid : id' = id := congrArg OrderId.mk (Int32.toInt_inj.mp hvalue)
  rw [hparse, hid]

theorem readOrderNumber_of_reads (h : Reads .signed32 (trim text.toList) (.ok id.value.toInt)) :
    readOrderNumber text = .ok id := by
  rw [readOrderNumber, parse_of_reads h]

theorem readOrderNumber_of_fault (h : Reads .signed32 (trim text.toList) (.error fault)) :
    readOrderNumber text = .error (.validation ("invalid order id: " ++ quoted text)) := by
  have hfault := OrderId.parse_iff.mpr h
  rw [readOrderNumber]
  cases hparse : OrderId.parse text with
  | ok id =>
      rw [hparse] at hfault
      cases hfault
  | error e => rfl

theorem numberInPath_of_text {part : List UInt8}
    (h : Utf8.decode? (Url.percentDecode part) = some text) :
    numberInPath part = (readOrderNumber text).mapError .refused := by
  rw [numberInPath, h]

theorem numberInQuery_of_text (h : readQuery r = .ok ⟨some text⟩) :
    numberInQuery r = (readOrderNumber text).mapError .refused := by
  rw [numberInQuery, h]

/-- **A text that is no number makes a request that asks for nothing.** -/
theorem asked_of_fault (hnames : Names r text what) {why : ApiError}
    (h : readOrderNumber text = .error why) : asked r what = .error (.refused why) := by
  cases hnames with
  | getByQuery htext =>
      rw [asked, numberInQuery_of_text htext, h]
      rfl
  | getByPath htext =>
      rw [asked, numberInPath_of_text htext, h]
      rfl
  | update htext =>
      simp only [asked, numberInPath_of_text htext, h, Except.mapError]
  | delete htext =>
      rw [asked, numberInPath_of_text htext, h]
      rfl

/-- **A text that is a number makes a request for the order with this number.**  Only a change of
it may still be refused, for the sake of its body. -/
theorem asked_of_number (hnames : Names r text what) (h : readOrderNumber text = .ok id) :
    (∃ wish, asked r what = .ok wish ∧ wish.order? = some id) ∨
      ∃ part details, what = .update part ∧
        readBody UpdateOrder.decode r = .error (.validation details) ∧
        asked r what = .error (.refused (.validation details)) := by
  cases hnames with
  | getByQuery htext =>
      refine .inl ⟨.get id, ?_, rfl⟩
      rw [asked, numberInQuery_of_text htext, h]
      rfl
  | getByPath htext =>
      refine .inl ⟨.get id, ?_, rfl⟩
      rw [asked, numberInPath_of_text htext, h]
      rfl
  | @update part htext =>
      cases hbody : readBody UpdateOrder.decode r with
      | ok body =>
          refine .inl ⟨.update id body.status, ?_, rfl⟩
          simp only [asked, numberInPath_of_text htext, h, hbody, Except.mapError, Except.map]
      | error why =>
          obtain ⟨details, rfl⟩ := readBody_validated UpdateOrder.decode r why hbody
          refine .inr ⟨part, details, rfl, rfl, ?_⟩
          simp only [asked, numberInPath_of_text htext, h, hbody, Except.mapError, Except.map]
  | delete htext =>
      refine .inl ⟨.delete id, ?_, rfl⟩
      rw [asked, numberInPath_of_text htext, h]
      rfl

/-! ### What comes of them -/

/-- Who asks for something gets it. -/
theorem granted_of_asked (hroute : route r.target.path r.method = .found (.order what))
    (hcaller : identify services.accounts.signingKey occasion.now r = .ok user) {wish : Wish}
    (hasked : asked r what = .ok wish) : Granted services occasion r user wish := by
  intro s
  rw [shown_serve, state_serve, work_of_asked hroute hcaller hasked]
  simp only [carryOut_call, outcomeOf_carried, and_self]

theorem declined_of_work {why : ApiError} (hwork : work services occasion r = Action.fail why) :
    Declined services occasion r why := by
  intro s
  rw [shown_serve, state_serve, hwork]
  exact ⟨rfl, rfl⟩

/-- Whose request cannot be read is told so. -/
theorem declined_of_asked (hroute : route r.target.path r.method = .found (.order what))
    (hcaller : identify services.accounts.signingKey occasion.now r = .ok user) {why : ApiError}
    (hasked : asked r what = .error (.refused why)) : Declined services occasion r why :=
  declined_of_work (work_of_unclear hroute hcaller hasked)

/-- **Numbers are read exactly.**  The text of an identifier, without the blanks around it, and
the text of a setting as it stands are read as what they come to, and the numeral of an
identifier is read as this identifier.  So a request of somebody who is known is about the order
whose number the text in it is the numeral of, and is about no order if there is no such number,
whoever sends it. -/
theorem numbers_are_read_exactly :
    (∀ (s : String) (reading : Except NumeralError Int),
      ((UserId.parse s).map (fun id => id.value.toInt) = reading ↔
        Reads .signed32 (trim s.toList) reading) ∧
      ((OrderId.parse s).map (fun id => id.value.toInt) = reading ↔
        Reads .signed32 (trim s.toList) reading)) ∧
    (∀ (bits : Nat) (s : String) (reading : Except NumeralError Int),
      readNumeral (.unsigned bits) s.toList = reading ↔
        Reads (.unsigned bits) s.toList reading) ∧
    (∀ (lookup : Lookup) (bits : Nat) (name other : String),
      (∀ n : Nat, lookup.number bits name other = .ok n ↔
        Reads (.unsigned bits) (lookup.orElse name other).toList (.ok n)) ∧
      ∀ e, lookup.number bits name other = .error e ↔
        ∃ fault, Reads (.unsigned bits) (lookup.orElse name other).toList (.error fault) ∧
          e = .invalid name fault.message) ∧
    (∀ id : UserId, UserId.parse id.text = .ok id) ∧
    (∀ id : OrderId, OrderId.parse id.text = .ok id) ∧
    ∀ (σ : Type) (services : Services σ) (occasion : Occasion) (r : Request)
      (what : OrderRequest) (text : String),
      route r.target.path r.method = .found (.order what) → Names r text what →
      (∀ (user : UserId) (id : OrderId),
        Admitted services.accounts.signingKey occasion.now (r.header? "authorization") user →
        Reads .signed32 (trim text.toList) (.ok id.value.toInt) →
        (∃ wish, Asks what wish ∧ wish.order? = some id ∧
          Granted services occasion r user wish) ∨
        ∃ part details, what = .update part ∧
          readBody UpdateOrder.decode r = .error (.validation details) ∧
          Declined services occasion r (.validation details)) ∧
      ∀ fault, Reads .signed32 (trim text.toList) (.error fault) →
        ∃ why, Declined services occasion r why ∧
          ∀ user, Admitted services.accounts.signingKey occasion.now
              (r.header? "authorization") user →
            why = .validation ("invalid order id: " ++ quoted text) := by
  refine ⟨fun s reading => ⟨UserId.parse_iff, OrderId.parse_iff⟩, ?_, ?_, parse_userIdText,
    parse_orderIdText, ?_⟩
  · intro bits s reading
    exact readNumeral_iff (zero_mem_unsigned bits)
  · intro lookup bits name other
    exact ⟨fun n => Lookup.number_eq_ok_iff_reads, fun e => Lookup.number_eq_error_iff⟩
  intro σ services occasion r what text hroute hnames
  constructor
  · intro user id hadmitted hreads
    have hcaller := identify_of_admitted hadmitted
    obtain ⟨wish, hasked, horder⟩ | ⟨part, details, hwhat, hbody, hasked⟩ :=
      asked_of_number hnames (readOrderNumber_of_reads hreads)
    · exact .inl ⟨wish, asks_of_asked hasked, horder, granted_of_asked hroute hcaller hasked⟩
    · exact .inr ⟨part, details, hwhat, hbody, declined_of_asked hroute hcaller hasked⟩
  · intro fault hreads
    have hasked := asked_of_fault hnames (readOrderNumber_of_fault hreads)
    cases hcaller : identify services.accounts.signingKey occasion.now r with
    | ok user =>
        exact ⟨_, declined_of_asked hroute hcaller hasked, fun _ _ => rfl⟩
    | error why =>
        refine ⟨why, declined_of_work (work_of_stranger hroute hcaller), ?_⟩
        -- a stranger is nobody who is admitted
        intro user hadmitted
        rw [identify_of_admitted hadmitted] at hcaller
        cases hcaller

/-- Seven is given the second order by a numeral with a sign and a zero in front, and is told that
there is no order with a number whose last thirty-two bits are those of two. -/
theorem seven_reaches_the_second_by_its_number :
    Granted (inMemory Password.argon2 "k" .epoch) daybreak (sent ⟨7⟩ "GET" "/order/+02" "") ⟨7⟩
      (.get ⟨2⟩) ∧
    Declined (inMemory Password.argon2 "k" .epoch) daybreak
      (sent ⟨7⟩ "GET" "/order/4294967298" "") (.validation "invalid order id: \"4294967298\"") := by
  obtain ⟨-, -, -, -, -, hrequests⟩ := numbers_are_read_exactly
  constructor
  · obtain ⟨hnumber, -⟩ := hrequests Tables (inMemory Password.argon2 "k" .epoch) daybreak
      (sent ⟨7⟩ "GET" "/order/+02" "") (.getByPath (Utf8.encode "+02")) "+02" (by decide +kernel)
      (.getByPath (by decide +kernel))
    have htwo : IsInteger .signed32 (trim "+02".toList) 2 :=
      ⟨.plus ⟨by decide, List.all_iff_forall_prop.mp (by decide)⟩, by decide, by decide⟩
    obtain ⟨wish, hasks, horder, hgranted⟩ | ⟨part, details, hwhat, -⟩ :=
      hnumber ⟨7⟩ ⟨2⟩ (admitted_sent ⟨7⟩ _ _ _) (.integer htwo)
    · cases hasks with
      | getByPath h =>
          cases horder
          exact hgranted
    · cases hwhat
  · obtain ⟨-, hfault⟩ := hrequests Tables (inMemory Password.argon2 "k" .epoch) daybreak
      (sent ⟨7⟩ "GET" "/order/4294967298" "") (.getByPath (Utf8.encode "4294967298"))
      "4294967298" (by decide +kernel) (.getByPath (by decide +kernel))
    have hlarge : TooLarge .signed32 (trim "4294967298".toList) :=
      ⟨"4294967298".toList, .none (by decide) (by decide), by decide⟩
    obtain ⟨why, hdeclined, hwhy⟩ := hfault .tooLarge (.tooLarge hlarge)
    have htext : "invalid order id: " ++ quoted "4294967298" =
        "invalid order id: \"4294967298\"" := by
      decide +kernel
    rw [hwhy ⟨7⟩ (admitted_sent ⟨7⟩ _ _ _), htext] at hdeclined
    exact hdeclined

end Api

end OrderDesk
