/-
Which tokens are accepted.

A token is looked at in steps: it is cut at its points, the header is read, the
signature is compared, the claims are read, and only then does the time matter.  The
first four steps do not know the time.  So a token either fails them, with one error at
all times, or it is authentic and from then on nothing but its expiry decides.

What an authentic token is does not mention any reader.  It is said by the alphabet of
base 64, the grammar of JSON and the keyed digest alone.
-/
import OrderDesk.Proofs.Bearer.Signed
import OrderDesk.Proofs.Json.Values

namespace OrderDesk.Bearer

open OrderDesk.Digest
open OrderDesk.Json
open OrderDesk.Text

theorem seconds_le_of_le {a b : Instant} (h : a.le b = true) : a.seconds ≤ b.seconds := by
  unfold Instant.le at h
  simp at h
  omega

/-! ### Authentic tokens -/

/-- A value that names a word: a text, or an object whose only member has the word as its name
and holds nothing. -/
inductive Names (word : String) : List Lexeme → Prop where
  | text : Names word [.text (some word)]
  | member : Names word (objectLexemes [(some word, [.null])])

/-- A header that names the algorithm HS256, as an object or as an array whose second element is
the algorithm. -/
def IsHeader (source : List (Option Char)) : Prop :=
  (∃ members value, IsObject (lexemes source) members ∧ HasOnly members "alg" value ∧
      Names "HS256" value) ∨
    ∃ elements value, IsArray (lexemes source) elements ∧ elements[1]? = some value ∧
      Names "HS256" value

/-- The only member with this name is an integer. -/
def HasInteger (members : List (String × List Lexeme)) (name : String) (n : Int) : Prop :=
  ∃ number, HasOnly members name [.number number] ∧ number.toInt? = some n

/-- An object that makes these claims. -/
structure MakesClaims (source : List (Option Char)) (claims : Claims)
    (members : List (String × List Lexeme)) : Prop where
  object : IsObject (lexemes source) members
  userId : HasInteger members "user_id" claims.userId.toInt
  issuedAt : HasInteger members "iat" claims.issuedAt
  expiresAt : HasInteger members "exp" claims.expiresAt
  issuedFits : signed64.low ≤ claims.issuedAt ∧ claims.issuedAt ≤ signed64.high
  expiryFits : signed64.low ≤ claims.expiresAt ∧ claims.expiresAt ≤ signed64.high

/-- The characters of a token: a message, and its keyed digest in base 64. -/
def signedText (key : String) (message : List Char) : List Char :=
  message ++ '.' :: Base64.encode Base64.urlSafe
    (hmacSha256 (Utf8.encode key) (Utf8.encode (String.ofList message)))

/-- A token that was signed with the key and makes these claims. -/
def Authentic (key token : String) (claims : Claims) : Prop :=
  ∃ header payload : List UInt8,
    token.toList = signedText key
      (Base64.encode Base64.urlSafe header ++ '.' :: Base64.encode Base64.urlSafe payload) ∧
    IsHeader (Utf8.decode header) ∧ ∃ members, MakesClaims (Utf8.decode payload) claims members

/-! ### The header -/

theorem eq_of_lookup {word : String} (h : algorithms.lookup word = some .hs256) :
    word = "HS256" := by
  rw [List.lookup_eq_some_iff] at h
  obtain ⟨before, after, hsplit, _⟩ := h
  have hmem : (word, Algorithm.hs256) ∈ algorithms := by
    rw [hsplit]
    simp
  simpa [algorithms] using hmem

theorem names_of_takes {value : List Lexeme} (hvalue : IsValue value)
    (h : Takes (readChoice algorithms) value .hs256) : Names "HS256" value := by
  obtain ⟨behind, h⟩ := h
  rw [readChoice_local value behind hvalue, readChoice_eq_ok hvalue] at h
  obtain ⟨word, hword, hvalue'⟩ := h
  obtain rfl := eq_of_lookup hword
  rcases hvalue' with rfl | rfl
  · exact .text
  · exact .member

theorem takes_choice {value : List Lexeme} {a : Algorithm}
    (h : Takes (readHeaderPart "alg") value (.algorithm a)) :
    Takes (readChoice algorithms) value a := by
  obtain ⟨behind, hread⟩ := h
  refine ⟨behind, ?_⟩
  simp only [readHeaderPart] at hread
  cases hchoice : readChoice algorithms (value ++ behind) with
  | error e =>
      rw [hchoice] at hread
      cases hread
  | ok b =>
      rw [hchoice] at hread
      cases hread
      rfl

/-- The algorithm is the second of the fields. -/
theorem place_of_alg {i : Nat} {f : Field} (hf : headerRecord.fields[i]? = some f)
    (hname : f.name = "alg") : i = 1 := by
  obtain ⟨hlt, rfl⟩ := List.getElem?_eq_some_iff.mp hf
  have hplace : ∀ (j : Nat) (hj : j < headerRecord.fields.length),
      headerRecord.fields[j].name = "alg" → j = 1 := by decide
  exact hplace i hlt hname

theorem isHeader_of_readAlgorithm {source : List (Option Char)}
    (h : readAlgorithm source = some .hs256) : IsHeader source := by
  unfold readAlgorithm at h
  split at h
  · cases h
  · next seen hseen =>
    split at h
    · next a halg =>
      cases h
      rcases readFrom_of_decodeRecord hseen with ⟨members, hobject, hfields⟩ |
        ⟨elements, harray, hfields⟩
      · obtain ⟨value, honly, htakes⟩ := hfields "alg" _ (by decide) halg
        have hvalue : IsValue value := hobject.value_of_hasOnly honly
        have hnames := names_of_takes hvalue (takes_choice htakes)
        exact Or.inl ⟨members, value, hobject, honly, hnames⟩
      · obtain ⟨i, f, value, hf, hname, hat, htakes⟩ := hfields "alg" _ halg
        obtain rfl := place_of_alg hf hname
        have hvalue : IsValue value := harray.values value (List.mem_of_getElem? hat)
        have hnames := names_of_takes hvalue (takes_choice htakes)
        exact Or.inr ⟨elements, value, harray, hat, hnames⟩
    · cases h

/-! ### The claims -/

theorem integer_of_takes {range : IntRange} {name : String} {value : List Lexeme} {n : Int}
    (hvalue : IsValue value) (h : Takes (readInt range name) value n) :
    (∃ number, value = [.number number] ∧ number.toInt? = some n) ∧
      range.low ≤ n ∧ n ≤ range.high := by
  obtain ⟨behind, h⟩ := h
  generalize hls : value ++ behind = ls at h
  unfold readInt at h
  split at h
  · next number rest =>
    split at h
    · next i hi =>
      split at h
      · next hrange =>
        cases h
        exact ⟨⟨number, hvalue.unique (.number number) hls, hi⟩, hrange⟩
      · cases h
    · exact absurd h refuse_ne_ok
  · exact absurd h refuse_ne_ok

/-- A claim that was read is an integer in its range. -/
theorem hasInteger_of_readClaim {ls : List Lexeme} {members : List (String × List Lexeme)}
    (hobject : IsObject ls members) {name : String} {n : Int}
    (h : ∃ value, HasOnly members name value ∧ Takes (readClaim name) value n) :
    HasInteger members name n ∧
      if name = "user_id" then IntRange.signed32.low ≤ n ∧ n ≤ IntRange.signed32.high
      else signed64.low ≤ n ∧ n ≤ signed64.high := by
  obtain ⟨value, honly, htakes⟩ := h
  have hvalue := hobject.value_of_hasOnly honly
  unfold readClaim at htakes
  split at htakes
  · next hname =>
    obtain ⟨⟨number, rfl, hnumber⟩, hrange⟩ := integer_of_takes hvalue htakes
    rw [if_pos hname]
    exact ⟨⟨number, honly, hnumber⟩, hrange⟩
  · next hname =>
    obtain ⟨⟨number, rfl, hnumber⟩, hrange⟩ := integer_of_takes hvalue htakes
    rw [if_neg hname]
    exact ⟨⟨number, honly, hnumber⟩, hrange⟩

theorem makesClaims_of_decode {source : List (Option Char)} {claims : Claims}
    (h : Claims.decode source = some claims) : ∃ members, MakesClaims source claims members := by
  unfold Claims.decode at h
  split at h
  · next seen _ hhead hseen _ =>
    split at h
    · next user iat exp huser hiat hexp =>
      cases h
      rcases readFrom_of_decodeRecord hseen with ⟨members, hobject, hfields⟩ |
        ⟨elements, harray, _⟩
      · obtain ⟨hu, hurange⟩ :=
          hasInteger_of_readClaim hobject (hfields "user_id" user (by decide) huser)
        obtain ⟨hi, hirange⟩ := hasInteger_of_readClaim hobject (hfields "iat" iat (by decide) hiat)
        obtain ⟨he, herange⟩ := hasInteger_of_readClaim hobject (hfields "exp" exp (by decide) hexp)
        rw [if_pos rfl] at hurange
        rw [if_neg (by decide)] at hirange herange
        refine ⟨members, hobject, ?_, hi, he, hirange, herange⟩
        have hlow : -2147483648 ≤ user := hurange.1
        have hhigh : user ≤ 2147483647 := hurange.2
        have hfits : (Int32.ofInt user).toInt = user :=
          Int32.toInt_ofInt_of_le hlow (by omega)
        simpa only [hfits] using hu
      · rw [harray.lexemes] at hhead
        cases hhead
    · cases h
  · cases h

/-! ### The whole token -/

theorem bytes_of_decodePart {α : Type} {part : List Char} {read : List (Option Char) → Option α}
    {a : α} (h : (decodePart part).bind read = some a) :
    ∃ bytes, Base64.encode Base64.urlSafe bytes = part ∧ read (Utf8.decode bytes) = some a := by
  unfold decodePart at h
  rw [Option.bind_eq_some_iff] at h
  obtain ⟨source, hsource, hread⟩ := h
  rw [Option.map_eq_some_iff] at hsource
  obtain ⟨bytes, hbytes, rfl⟩ := hsource
  exact ⟨bytes, Base64.encode_of_decode hbytes, hread⟩

/-- What is verified is authentic. -/
theorem authentic_of_verify {key token : String} {claims : Claims}
    (h : verify key token = .ok claims) : Authentic key token claims := by
  unfold verify at h
  split at h
  · next header payload given hpieces =>
    split at h
    · cases h
    · next hheader =>
      split at h
      · next hgiven =>
        split at h
        · next hpayload =>
          cases h
          obtain ⟨htoken, _⟩ := splitAll_eq_three.mp hpieces
          obtain ⟨headerBytes, rfl, halgorithm⟩ := bytes_of_decodePart hheader
          obtain ⟨payloadBytes, rfl, hclaims⟩ := bytes_of_decodePart hpayload
          refine ⟨headerBytes, payloadBytes, ?_, isHeader_of_readAlgorithm halgorithm,
            makesClaims_of_decode hclaims⟩
          rw [htoken, hgiven, signedText, signature, List.append_assoc, List.cons_append]
        · cases h
      · cases h
    · cases h
  · cases h

/-- The errors of tokens that are not authentic. -/
def TokenError.IsRejection (e : TokenError) : Prop :=
  e = .malformed ∨ e = .invalidSignature ∨ e = .unexpectedAlgorithm

theorem isRejection_of_verify {key token : String} {e : TokenError}
    (h : verify key token = .error e) : e.IsRejection := by
  unfold verify at h
  split at h
  · split at h
    · cases h
      exact Or.inl rfl
    · split at h
      · split at h
        · cases h
        · cases h
          exact Or.inl rfl
      · cases h
        exact Or.inr (Or.inl rfl)
    · cases h
      exact Or.inr (Or.inr rfl)
  · cases h
    exact Or.inl rfl

/-- The time decides about a token that was verified. -/
theorem validate_of_verify {key token : String} {claims : Claims}
    (h : verify key token = .ok claims) (now : Instant) :
    validate key token now =
      if now.seconds < claims.expiresAt then .ok ⟨claims.userId⟩ else .error .expired := by
  rw [validate, h]
  by_cases hnow : now.seconds < claims.expiresAt
  · rw [if_pos hnow]
    exact if_neg (by omega)
  · rw [if_neg hnow]
    exact if_pos (by omega)

/-- The time does not matter to a token that was not verified. -/
theorem validate_of_rejected {key token : String} {e : TokenError}
    (h : verify key token = .error e) (now : Instant) : validate key token now = .error e := by
  rw [validate, h]

/-- What is wrong with a token that has this header and a signature that is not right. -/
def faultOfHeader (header : List Char) : TokenError :=
  match (decodePart header).bind readAlgorithm with
  | none => .malformed
  | some .hs256 => .invalidSignature
  | some _ => .unexpectedAlgorithm

/-- A token of three pieces whose last one is not the signature of the others is judged by its
header. -/
theorem verify_of_unsigned {key token : String} {header payload given : List Char}
    (hpieces : splitAll '.' token.toList = [header, payload, given])
    (hgiven : given ≠ signature key (header ++ '.' :: payload)) :
    verify key token = .error (faultOfHeader header) := by
  rw [verify, faultOfHeader, hpieces]
  simp only [if_neg hgiven]
  cases hheader : (decodePart header).bind readAlgorithm with
  | none => rfl
  | some a => cases a <;> rfl

/-- **Nothing but the signature opens the claims, and nothing but the claims and the time decides
after that.**  A token that is accepted or has expired is authentic, and the whole seconds of the
time decide which of the two it is.  Every other token is rejected with one error at all times;
if only its signature is not right, its header alone decides which.  And what has expired stays
so. -/
theorem only_authentic_tokens_validate (key token : String) :
    (∀ now, ((∃ user, validate key token now = .ok user) ∨
        validate key token now = .error .expired) →
      ∃ claims, Authentic key token claims ∧ ∀ later : Instant,
        validate key token later =
          if later.seconds < claims.expiresAt then .ok ⟨claims.userId⟩ else .error .expired) ∧
    (∀ now, ¬((∃ user, validate key token now = .ok user) ∨
        validate key token now = .error .expired) →
      ∃ e : TokenError, e.IsRejection ∧ ∀ later, validate key token later = .error e) ∧
    (∀ (other : String) (header payload given payload' given' : List Char),
      splitAll '.' token.toList = [header, payload, given] →
      splitAll '.' other.toList = [header, payload', given'] →
      given ≠ signature key (header ++ '.' :: payload) →
      given' ≠ signature key (header ++ '.' :: payload') →
      ∀ now later, validate key token now = validate key other later) ∧
    ∀ now later : Instant, now.le later = true → validate key token now = .error .expired →
      validate key token later = .error .expired := by
  cases hverify : verify key token with
  | error e =>
      have hall := validate_of_rejected hverify
      have hrejection := isRejection_of_verify hverify
      have hnever : e ≠ .expired := by
        rcases hrejection with rfl | rfl | rfl <;> simp
      refine ⟨?_, ?_, ?_, ?_⟩
      · rintro now (⟨user, haccepted⟩ | hexpired)
        · rw [hall] at haccepted
          cases haccepted
        · rw [hall] at hexpired
          exact absurd (Except.error.inj hexpired) hnever
      · intro _ _
        exact ⟨e, hrejection, hall⟩
      · intro other header payload given payload' given' hpieces hpieces' hgiven hgiven' now later
        rw [validate_of_rejected (verify_of_unsigned hpieces hgiven),
          validate_of_rejected (verify_of_unsigned hpieces' hgiven')]
      · intro now later _ hexpired
        rw [hall] at hexpired
        exact absurd (Except.error.inj hexpired) hnever
  | ok claims =>
      have hall := validate_of_verify hverify
      refine ⟨?_, ?_, ?_, ?_⟩
      · intro _ _
        exact ⟨claims, authentic_of_verify hverify, hall⟩
      · intro now hrejected
        rw [hall] at hrejected
        split at hrejected
        · exact absurd (Or.inl ⟨_, rfl⟩) hrejected
        · exact absurd (Or.inr rfl) hrejected
      · intro other header payload given payload' given' hpieces _ hgiven
        rw [verify_of_unsigned hpieces hgiven] at hverify
        cases hverify
      · intro now later hle hexpired
        have hseconds : now.seconds ≤ later.seconds := seconds_le_of_le hle
        rw [hall] at hexpired ⊢
        split at hexpired
        · cases hexpired
        · rw [if_neg (by omega)]

theorem signature_ne_nil (key : String) (message : List Char) : signature key message ≠ [] := by
  intro hempty
  rw [signature, Base64.encode_eq_nil, hmacSha256, Sha256.digest] at hempty
  simp [Sha256.bigEndian] at hempty

/-- The claims of the user with the number seven, until noon of the first day. -/
def claimsOfSeven : Claims := ⟨7, 0, 43200⟩

/-- Noon of the first day. -/
def noon : Instant := ⟨43200, 0, by decide⟩

/-- A token before noon and at noon, a text that is no token, and tokens without a signature. -/
theorem token_of_seven_validates :
    (∃ claims, Authentic "k" (sign "k" claimsOfSeven) claims ∧ ∀ later : Instant,
      validate "k" (sign "k" claimsOfSeven) later =
        if later.seconds < claims.expiresAt then .ok ⟨claims.userId⟩ else .error .expired) ∧
    (∃ e : TokenError, e.IsRejection ∧ ∀ later, validate "k" "" later = .error e) ∧
    validate "k" "a.b." .epoch = validate "k" "a.c." noon ∧
    validate "k" (sign "k" claimsOfSeven) noon = .error .expired := by
  have hverify : verify "k" (sign "k" claimsOfSeven) = .ok claimsOfSeven :=
    verify_sign "k" (by unfold Claims.Fit; decide)
  have hnoon : validate "k" (sign "k" claimsOfSeven) noon = .error .expired :=
    validate_of_verify hverify noon
  refine ⟨?_, ?_, ?_, ?_⟩
  · refine (only_authentic_tokens_validate "k" _).1 .epoch (Or.inl ⟨⟨7⟩, ?_⟩)
    exact validate_of_verify hverify .epoch
  · refine (only_authentic_tokens_validate "k" "").2.1 .epoch ?_
    have hempty : validate "k" "" .epoch = .error .malformed := rfl
    simp [hempty]
  · exact (only_authentic_tokens_validate "k" "a.b.").2.2.1 "a.c." ['a'] ['b'] [] ['c'] []
      (by decide) (by decide) (signature_ne_nil _ _).symm (signature_ne_nil _ _).symm _ _
  · exact (only_authentic_tokens_validate "k" _).2.2.2 noon noon (by decide) hnoon

end OrderDesk.Bearer
