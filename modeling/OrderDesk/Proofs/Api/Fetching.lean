/-
One order, asked for in two ways.

The number of an order may stand in the query or in the path, and it may be written in many ways:
with percent signs in front of the codes of its characters, with a plus sign for a blank in the
query, with blanks around it, with a sign or with zeros in front.  The query and the path are
taken apart by different rules, but as soon as the same text comes of them, the same is answered.
What is answered depends on the text alone, and on the orders of the caller.

    /order?id=%2B07      /order/?x=y&id=%2B07      /order/+07

A part of a path holds no slash as it stands; a slash in the text is written `%2F`.  There is one
part of a path that names no order, whatever orders there are: `orders` stands for the list.
-/
import OrderDesk.Proofs.Account.Spelling
import OrderDesk.Proofs.Api.Isolation
import OrderDesk.Proofs.Text.Integer
import OrderDesk.Proofs.Text.Pieces

namespace OrderDesk.Api

open OrderDesk.Http
open OrderDesk.Memory (OrderCall OrderTable Reply)
open OrderDesk.Text

/-! ### Queries and their members -/

/-- The query has these members, with ampersands between them. -/
structure IsQuery (query : List UInt8) (members : List (List UInt8)) : Prop where
  ne_nil : members ≠ []
  plain : ∀ m ∈ members, 0x26 ∉ m
  joined : [0x26].intercalate members = query

/-- The name of the member, as it is read, is `id`. -/
def NamesId (member : List UInt8) : Prop := (Url.formPair member).1 = "id"

instance (member : List UInt8) : Decidable (NamesId member) :=
  inferInstanceAs (Decidable (_ = _))

theorem not_namesId_nil : ¬NamesId [] := by decide +kernel

/-- A member with its name as it stands. -/
theorem formPair_id (number : List UInt8) :
    Url.formPair (Utf8.encode "id=" ++ number) = ("id", Url.formText number) := by
  have hname : Utf8.encode "id=" = [0x69, 0x64] ++ [0x3D] := by decide +kernel
  have hid : Url.formText [0x69, 0x64] = "id" := by decide +kernel
  have hcut : cutAt (· == 0x3D) (Utf8.encode "id=" ++ number) = some ([0x69, 0x64], number) := by
    rw [hname, List.append_assoc, List.singleton_append]
    exact cutAt_append (List.all_iff_forall_prop.mp (by decide)) (by decide)
  rw [Url.formPair, hcut]
  simp only [hid]

/-- Of a query, only the members that name a number count. -/
theorem filter_formPairs {query : List UInt8} {members : List (List UInt8)}
    (h : IsQuery query members) :
    ((Url.formPairs query).filter fun pair => pair.1 = "id") =
      (members.filter fun m => NamesId m).map Url.formPair := by
  have hsplit : splitAll 0x26 query = members := splitAll_eq_iff.mpr ⟨h.ne_nil, h.plain, h.joined⟩
  rw [Url.formPairs, hsplit, List.filter_map, List.filter_filter]
  congr 1
  refine List.filter_congr fun m _ => ?_
  have hname : ((fun pair : String × String => decide (pair.1 = "id")) ∘ Url.formPair) m =
      decide (NamesId m) := rfl
  rw [hname]
  by_cases hm : NamesId m
  · have hne : m ≠ [] := fun hnil => not_namesId_nil (hnil ▸ hm)
    simp [hne]
  · simp [hm]

theorem filter_namesId {before behind : List (List UInt8)} {number : List UInt8}
    (h : ∀ m ∈ before ++ behind, ¬NamesId m) :
    ((before ++ (Utf8.encode "id=" ++ number) :: behind).filter fun m => NamesId m) =
      [Utf8.encode "id=" ++ number] := by
  have hnone : ∀ ms : List (List UInt8), (∀ m ∈ ms, ¬NamesId m) →
      (ms.filter fun m => NamesId m) = [] := by
    intro ms hms
    rw [List.filter_eq_nil_iff]
    exact fun m hm => by simpa using hms m hm
  obtain ⟨hbefore, hbehind⟩ := List.forall_mem_append.mp h
  have hid : NamesId (Utf8.encode "id=" ++ number) := congrArg Prod.fst (formPair_id number)
  rw [List.filter_append, hnone before hbefore, List.nil_append,
    List.filter_cons_of_pos (by simpa using hid), hnone behind hbehind]

/-- What is read of a query is decided by its members that name a number. -/
theorem readQuery_eq {r : Request} {members : List (List UInt8)}
    (h : IsQuery r.target.query members) :
    readQuery r =
      match members.filter fun m => NamesId m with
      | [] => .ok ⟨none⟩
      | [m] => .ok ⟨some (Url.formPair m).2⟩
      | _ => .error (.validation "Failed to deserialize query string: duplicate field `id`") := by
  rw [readQuery, filter_formPairs h]
  match members.filter fun m => NamesId m with
  | [] => rfl
  | [m] => rfl
  | _ :: _ :: _ => rfl

/-! ### Places -/

/-- The request is for the place of all orders, with a slash at the end or without. -/
def AtOrders (r : Request) : Prop :=
  r.target.path = Utf8.encode "/order" ∨ r.target.path = Utf8.encode "/order/"

theorem placeOf_atOrders {r : Request} (h : AtOrders r) :
    placeOf r.target.path = some .orders := by
  rcases h with h | h
  · rw [h]
    decide +kernel
  · rw [h]
    decide +kernel

/-- The fixed paths below that of the orders are that of the orders itself and that of the list. -/
theorem fixedPlaces_below : ∀ place ∈ fixedPlaces, orderPath.isPrefixOf place.1 = true →
    place.1.drop orderPath.length = [] ∨ place.1.drop orderPath.length = Utf8.encode "orders" := by
  decide +kernel

/-- Every other part of a path names an order. -/
theorem placeOf_part {part : List UInt8} (hne : part ≠ []) (hslash : 0x2F ∉ part)
    (hlist : part ≠ Utf8.encode "orders") :
    placeOf (orderPath ++ part) = some (.order part) := by
  have horders : orderPath.isPrefixOf (orderPath ++ part) = true := by simp
  have hdrop : (orderPath ++ part).drop orderPath.length = part := List.drop_left
  have hfixed : fixedPlaces.lookup (orderPath ++ part) = none := by
    rw [List.lookup_eq_none_iff]
    intro place hplace
    rw [bne_iff_ne]
    intro heq
    have hbelow := fixedPlaces_below place hplace (heq ▸ horders)
    rw [← heq, hdrop] at hbelow
    exact hbelow.elim hne hlist
  rw [placeOf, hfixed]
  simp only [hdrop]
  rw [if_pos ⟨horders, hne, by simpa using hslash⟩]

/-! ### Requests for one order -/

/-- The request is for the order that the text names: it has the text in the query, as the only
member that names a number, or as a part of the path. -/
inductive Fetches (text : String) (r : Request) : Prop
  | query {before behind : List (List UInt8)} {number : List UInt8} (hmethod : r.method = "GET")
      (hplace : AtOrders r)
      (hquery : IsQuery r.target.query (before ++ (Utf8.encode "id=" ++ number) :: behind))
      (hothers : ∀ m ∈ before ++ behind, ¬NamesId m) (htext : Url.formText number = text)
  | path {part : List UInt8} (hmethod : r.method = "GET")
      (hpath : r.target.path = Utf8.encode "/order/" ++ part) (hslash : 0x2F ∉ part)
      (hlist : part ≠ Utf8.encode "orders")
      (htext : Utf8.decode? (Url.percentDecode part) = some text)

/-- What a caller is told whose request is at fault. -/
def badRequest (details : String) : Nat × String :=
  (400, Json.writeObject
    [("error", Json.writeText "Invalid request"), ("code", Json.writeText "VALIDATION_ERROR"),
     ("details", Json.writeText details)])

/-- What a caller is told who has no such order. -/
def noSuchOrder : Nat × String :=
  (404, Json.writeObject
    [("error", Json.writeText "Order not found"), ("code", Json.writeText "NOT_FOUND")])

variable {passwords : PasswordScheme} {key : String} {occasion : Occasion} {r : Request}
  {user : UserId} {t : Tables} {text : String}

/-- What is asked for when one order is named by a text. -/
def wishFor (text : String) : Except Unclear Wish :=
  ((readOrderNumber text).mapError Unclear.refused).map .get

/-- In whichever way an order is asked for, it is asked for by the text. -/
theorem asked_of_fetches (hne : text ≠ "") (h : Fetches text r) :
    r.method ≠ "HEAD" ∧ ∃ what, route r.target.path r.method = .found (.order what) ∧
      asked r what = wishFor text := by
  cases h with
  | query hmethod hplace hquery hothers htext =>
      have hread := readQuery_eq hquery
      rw [filter_namesId hothers] at hread
      dsimp only at hread
      rw [formPair_id, htext] at hread
      refine ⟨by rw [hmethod]; decide, .getByQuery, ?_, ?_⟩
      · rw [route, placeOf_atOrders hplace, hmethod]
        rfl
      · simp only [asked, numberInQuery, hread, wishFor]
  | path hmethod hpath hslash hlist htext =>
      next part =>
      have hpart : part ≠ [] := by
        rintro rfl
        exact hne (Option.some.inj htext).symm
      refine ⟨by rw [hmethod]; decide, .getByPath part, ?_, ?_⟩
      · have hplace := placeOf_part hpart hslash hlist
        rw [route, hpath, show Utf8.encode "/order/" = orderPath from rfl, hplace, hmethod]
        rfl
      · simp only [asked, numberInPath, htext, wishFor]

/-! ### What is answered -/

/-- What a caller is shown when it is known what the request asks for, or why it is not. -/
def shownFor (user : UserId) (t : Tables) : Except Unclear OrderId → Nat × String
  | .error why => (why.response.status, why.response.body)
  | .ok id =>
    match t.orders.find? user id with
    | some order => (200, orderBody order)
    | none => noSuchOrder

/-- A caller who asks for an order is shown it, or why not. -/
theorem shown_of_asked (hcaller : identify key occasion.now r = .ok user) {what : OrderRequest}
    (hmethod : r.method ≠ "HEAD") (hroute : route r.target.path r.method = .found (.order what))
    {number : Except Unclear OrderId} (hasked : asked r what = number.map .get) :
    (answer passwords key occasion r t).ending.map Answer.shown =
      .done (shownFor user t number) := by
  have hkey : identify (inMemory passwords key occasion.now).accounts.signingKey occasion.now r =
      .ok user := hcaller
  rw [answer, shown_serve, shownOf_of_ne hmethod, work_of_caller hroute hkey, serveOrder_eq, hasked]
  cases number with
  | error why => cases why <;> rfl
  | ok id =>
      have hcall := congrFun (OrderCall.on_onPart Tables.orders
        (fun o t => { t with orders := o }) Memory.orderStore (.find user id)) t
      have hending : ((OrderCall.find user id).on Tables.orderStore t).ending =
          (OrderTable.findOne user id t.orders).ending.map .order :=
        (congrArg Step.ending hcall).trans (Memory.on_find t.orders user id).1
      simp only [Except.map, carryOut_call, outcomeOf_carried]
      show (answerTo (.get user id) ((OrderCall.find user id).on Tables.orderStore t).ending).map _
        = _
      rw [hending, shownFor]
      cases hfind : t.orders.find? user id with
      | none =>
          rw [OrderTable.findOne_of_none hfind]
          rfl
      | some order =>
          rw [OrderTable.findOne_of_some hfind]
          rfl

/-- An order that the caller has is found by its number. -/
theorem shownFor_of_mem (h : t.orders.Sound) {order : Order}
    (hmem : order ∈ t.orders.ownedBy user) :
    shownFor user t (.ok order.id) = (200, orderBody order) := by
  rw [shownFor, h.mem_ownedBy_iff.mp hmem]

theorem shownFor_of_not_mem (h : t.orders.Sound) {id : OrderId}
    (hnone : ∀ order ∈ t.orders.ownedBy user, order.id ≠ id) :
    shownFor user t (.ok id) = noSuchOrder := by
  rw [shownFor]
  cases hfind : t.orders.find? user id with
  | none => rfl
  | some order =>
      exact absurd (h.id_of_find? hfind) (hnone order (OrderTable.mem_ownedBy.mpr ⟨id, hfind⟩))

/-- A text names the number that it is a numeral of. -/
theorem readOrderNumber_of_numeral {id : OrderId}
    (h : IsNumeral True (trim text.toList) id.value.toInt) : readOrderNumber text = .ok id := by
  rw [readOrderNumber, OrderId.parse_eq_ok_iff.mpr h]

theorem readOrderNumber_of_not_numeral
    (h : ∀ id : OrderId, ¬IsNumeral True (trim text.toList) id.value.toInt) :
    readOrderNumber text = .error (.validation ("invalid order id: " ++ quoted text)) := by
  rw [readOrderNumber]
  cases hparse : OrderId.parse text with
  | ok id => exact absurd (OrderId.parse_eq_ok_iff.mp hparse) (h id)
  | error e => rfl

/-- The same request for the place with this path. -/
def toPath (path : String) (r : Request) : Request :=
  { r with target := { r.target with path := Utf8.encode path } }

/-- The path has no part in an answer but to say what is asked for. -/
theorem serve_toPath {σ : Type} (services : Services σ) (occasion : Occasion) (r : Request)
    {p q : String} (h : route (Utf8.encode p) r.method = route (Utf8.encode q) r.method) :
    serve services occasion (toPath p r) = serve services occasion (toPath q r) := by
  have hroute : route (toPath p r).target.path (toPath p r).method =
      route (toPath q r).target.path (toPath q r).method := h
  simp only [serve, serveRoute, hroute]
  cases route (toPath q r).target.path (toPath q r).method with
  | notFound => rfl
  | methodNotAllowed allowed => rfl
  | found endpoint =>
      cases endpoint with
      | health => rfl
      | readiness => rfl
      | signUp => rfl
      | signIn => rfl
      | order what => cases what <;> rfl

/-- A slash at the end of the path of all orders makes no difference at all. -/
theorem serve_slash {σ : Type} (services : Services σ) (occasion : Occasion) (r : Request) :
    serve services occasion (toPath "/order" r) = serve services occasion (toPath "/order/" r) := by
  refine serve_toPath services occasion r ?_
  have hplain := placeOf_atOrders (r := toPath "/order" r) (.inl rfl)
  have hslash := placeOf_atOrders (r := toPath "/order/" r) (.inr rfl)
  rw [route, route, show placeOf (Utf8.encode "/order") = _ from hplain,
    show placeOf (Utf8.encode "/order/") = _ from hslash]

/-- A caller at the place of all orders is shown what the query asks for. -/
theorem shown_of_query (hcaller : identify key occasion.now r = .ok user)
    (hmethod : r.method = "GET") (hplace : AtOrders r) :
    (answer passwords key occasion r t).ending.map Answer.shown =
      .done (shownFor user t (numberInQuery r)) := by
  have hroute : route r.target.path r.method = .found (.order .getByQuery) := by
    rw [route, placeOf_atOrders hplace, hmethod]
    rfl
  exact shown_of_asked hcaller (by rw [hmethod]; decide) hroute rfl

/-! ### The law -/

/-- At this time the request is answered with this status and this body, whatever random bytes
there are. -/
def IsShown (passwords : PasswordScheme) (key : String) (t : Tables) (now : Instant) (r : Request)
    (shown : Nat × String) : Prop :=
  ∀ occasion : Occasion, occasion.now = now →
    (answer passwords key occasion r t).ending.map Answer.shown = .done shown

/-- **However an order is asked for, the same is answered.**  A caller may put the text that names
an order into the query, together with any other members, or into the path.  Either way the answer
is the order if the text without the blanks around it is the numeral of an order that the caller
has; that there is no such order if it is a numeral of thirty-two bits of any other; and otherwise
that the text names no order.  A query that names two numbers is always refused.  And a slash at
the end of the path of all orders makes no difference, whether orders are asked for or created. -/
theorem orders_are_fetched_alike (h : Reachable passwords key t) (now : Instant) (user : UserId) :
    (∀ text : String, text ≠ "" → ∃ shown,
      (∀ r, identify key now r = .ok user → Fetches text r →
        IsShown passwords key t now r shown) ∧
      (∀ order ∈ t.orders.ownedBy user,
        IsNumeral True (trim text.toList) order.id.value.toInt → shown = (200, orderBody order)) ∧
      (∀ id : OrderId, IsNumeral True (trim text.toList) id.value.toInt →
        (∀ order ∈ t.orders.ownedBy user, order.id ≠ id) → shown = noSuchOrder) ∧
      ((∀ id : OrderId, ¬IsNumeral True (trim text.toList) id.value.toInt) →
        shown = badRequest ("invalid order id: " ++ quoted text))) ∧
    (∀ r members, identify key now r = .ok user → r.method = "GET" → AtOrders r →
      IsQuery r.target.query members → 2 ≤ members.countP (fun m => NamesId m) →
      IsShown passwords key t now r
        (badRequest "Failed to deserialize query string: duplicate field `id`")) ∧
    ∀ (occasion : Occasion) (r : Request),
      answer passwords key occasion (toPath "/order" r) t =
        answer passwords key occasion (toPath "/order/" r) t := by
  refine ⟨?_, ?_, ?_⟩
  · intro text hne
    refine ⟨shownFor user t ((readOrderNumber text).mapError .refused), ?_, ?_, ?_, ?_⟩
    · rintro r hcaller hfetches occasion rfl
      obtain ⟨hmethod, what, hroute, hasked⟩ := asked_of_fetches hne hfetches
      exact shown_of_asked hcaller hmethod hroute hasked
    · intro order hmem hnumeral
      rw [readOrderNumber_of_numeral hnumeral]
      exact shownFor_of_mem h.sound hmem
    · intro id hnumeral hnone
      rw [readOrderNumber_of_numeral hnumeral]
      exact shownFor_of_not_mem h.sound hnone
    · intro hnone
      rw [readOrderNumber_of_not_numeral hnone]
      rfl
  · rintro r members hcaller hmethod hplace hquery htwo occasion rfl
    rw [shown_of_query hcaller hmethod hplace, numberInQuery, readQuery_eq hquery]
    rw [List.countP_eq_length_filter] at htwo
    rcases hids : members.filter fun m => NamesId m with _ | ⟨m, _ | ⟨m', rest⟩⟩
    · simp [hids] at htwo
    · simp [hids] at htwo
    · rfl
  · intro occasion r
    exact congrFun (serve_slash (inMemory passwords key occasion.now) occasion r) t

/-- Seven asks for something about orders, with this query. -/
def searching (path query : String) : Request :=
  { sent ⟨7⟩ "GET" path "" with target := ⟨Utf8.encode path, Utf8.encode query⟩ }

/-- The order of seven. -/
def orderOfSeven : Order :=
  { id := ⟨2⟩, owner := ⟨7⟩, status := .pending, createdAt := .epoch, updatedAt := .epoch }

/-- Seven asks for the second order with a sign and a zero in front, in the query and in the path,
is shown it, and is refused when the query names it twice. -/
theorem seven_finds_the_second :
    (IsShown Password.argon2 "k" withForeign .epoch (searching "/order/" "x=1&id=%2B02")
        (200, orderBody orderOfSeven) ∧
      IsShown Password.argon2 "k" withForeign .epoch (searching "/order/+02" "")
        (200, orderBody orderOfSeven)) ∧
    IsShown Password.argon2 "k" withForeign .epoch (searching "/order" "id=2&%69d=2")
      (badRequest "Failed to deserialize query string: duplicate field `id`") := by
  obtain ⟨hfetch, htwice, -⟩ := orders_are_fetched_alike related_foreign.left .epoch ⟨7⟩
  -- who asks is read from the header alone, which is that of any request of seven
  have hcaller : ∀ path query, identify "k" .epoch (searching path query) = .ok ⟨7⟩ := by
    intro path query
    have hheader : (searching path query).header? "authorization" =
        (sent ⟨7⟩ "GET" path "").header? "authorization" := rfl
    refine identify_of_admitted ?_
    rw [hheader]
    exact admitted_sent ⟨7⟩ "GET" path ""
  constructor
  · obtain ⟨shown, hshown, hfound, -, -⟩ := hfetch "+02" (by decide)
    have hmem : orderOfSeven ∈ withForeign.orders.ownedBy ⟨7⟩ := by decide +kernel
    have hnumeral : IsNumeral True (trim "+02".toList) 2 :=
      .plus ⟨by decide, List.all_iff_forall_prop.mp (by decide)⟩
    rw [← hfound orderOfSeven hmem hnumeral]
    have hquery : IsQuery (Utf8.encode "x=1&id=%2B02")
        ([Utf8.encode "x=1"] ++ (Utf8.encode "id=" ++ Utf8.encode "%2B02") :: []) :=
      ⟨by decide +kernel, by decide +kernel, by decide +kernel⟩
    refine ⟨hshown _ (hcaller _ _) (.query rfl (.inr rfl) hquery ?_ ?_),
      hshown _ (hcaller _ _) (@Fetches.path _ _ (Utf8.encode "+02") rfl ?_ ?_ ?_ ?_)⟩
    all_goals decide +kernel
  · exact htwice _ [Utf8.encode "id=2", Utf8.encode "%69d=2"] (hcaller _ _) rfl (.inl rfl)
      ⟨by decide +kernel, by decide +kernel, by decide +kernel⟩ (by decide +kernel)

end OrderDesk.Api
