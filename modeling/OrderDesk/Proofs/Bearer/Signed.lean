/-
Reading what was signed.

A token that was signed is verified under the same key and makes the claims it was signed
with.  Three layers have to be undone for that: the pieces between the points, base 64,
and the JSON texts of header and claims.
-/
import OrderDesk.Bearer.Token
import OrderDesk.Proofs.Json.Written
import OrderDesk.Proofs.Text.Base64
import OrderDesk.Proofs.Text.Pieces
import OrderDesk.Proofs.Text.Utf8

namespace OrderDesk.Bearer

open OrderDesk.Json
open OrderDesk.Text

/-! ### The claims -/

/-- The members that claims are written as. -/
def claimMembers (c : Claims) : List (String × String × List Lexeme) :=
  [("user_id", writeInt c.userId.toInt, [.number (numberOf c.userId.toInt)]),
   ("iat", writeInt c.issuedAt, [.number (numberOf c.issuedAt)]),
   ("exp", writeInt c.expiresAt, [.number (numberOf c.expiresAt)])]

theorem isLexed_claimMembers (c : Claims) :
    ∀ m ∈ claimMembers c, IsLexed m.2.1.toList m.2.2 := by
  intro m hm
  simp only [claimMembers, List.mem_cons, List.not_mem_nil, or_false] at hm
  rcases hm with rfl | rfl | rfl <;> exact isLexed_writeInt _

/-- The times of the claims can be read again. -/
def Claims.Fit (c : Claims) : Prop :=
  (signed64.low ≤ c.issuedAt ∧ c.issuedAt ≤ signed64.high) ∧
    signed64.low ≤ c.expiresAt ∧ c.expiresAt ≤ signed64.high

theorem decode_encode {c : Claims} (h : c.Fit) :
    Claims.decode (c.encode.toList.map some) = some c := by
  have hlexed := isLexed_claimMembers c
  have hne : claimMembers c ≠ [] := by simp [claimMembers]
  have hsource : c.encode.toList.map some =
      ofText (writeObject ((claimMembers c).map fun m => (m.1, m.2.1))) := by
    rw [Claims.encode, claimMembers]
    rfl
  rw [hsource]
  have hclaims : decodeRecord claimsRecord readClaim
      (ofText (writeObject ((claimMembers c).map fun m => (m.1, m.2.1)))) =
      .ok [("exp", c.expiresAt), ("iat", c.issuedAt), ("user_id", c.userId.toInt)] := by
    refine decodeRecord_writeObject hlexed hne ?_ rfl
    refine .cons (.number _) (fun behind => .known rfl rfl ?_) (.cons (.number _)
      (fun behind => .known rfl rfl ?_) (.cons (.number _) (fun behind => .known rfl rfl ?_)
        (.nil _)))
    · exact readInt_numberOf (by decide) (by decide) (toInt_mem_signed32 c.userId) _ _
    · exact readInt_numberOf (by decide) (by decide) h.1 _ _
    · exact readInt_numberOf (by decide) (by decide) h.2 _ _
  have hregistered : decodeRecord registeredRecord readRegistered
      (ofText (writeObject ((claimMembers c).map fun m => (m.1, m.2.1)))) = .ok [] := by
    refine decodeRecord_writeObject hlexed hne ?_ rfl
    exact .cons (.number _) (fun behind => .unknown rfl) (.cons (.number _)
      (fun behind => .unknown rfl) (.cons (.number _) (fun behind => .unknown rfl) (.nil _)))
  have hhead : (lexemes (ofText (writeObject
      ((claimMembers c).map fun m => (m.1, m.2.1))))).head? = some .openBrace := by
    rw [lexemes_writeObject hlexed hne]
    rfl
  have hlookups : List.lookup "user_id" [("exp", c.expiresAt), ("iat", c.issuedAt),
        ("user_id", c.userId.toInt)] = some c.userId.toInt ∧
      List.lookup "iat" [("exp", c.expiresAt), ("iat", c.issuedAt),
        ("user_id", c.userId.toInt)] = some c.issuedAt ∧
      List.lookup "exp" [("exp", c.expiresAt), ("iat", c.issuedAt),
        ("user_id", c.userId.toInt)] = some c.expiresAt := ⟨rfl, rfl, rfl⟩
  simp only [Claims.decode, hhead, hclaims, hregistered, hlookups, Int32.ofInt_toInt]

/-! ### The header -/

/-- The members of the header of every token that is issued. -/
def headerMembers : List (String × String × List Lexeme) :=
  [("typ", writeText "JWT", [.text (some "JWT")]),
   ("alg", writeText "HS256", [.text (some "HS256")])]

theorem readAlgorithm_issuedHeader :
    readAlgorithm (issuedHeader.toList.map some) = some .hs256 := by
  have hsource : issuedHeader.toList.map some =
      ofText (writeObject (headerMembers.map fun m => (m.1, m.2.1))) := by
    rw [issuedHeader, headerMembers]
    rfl
  have hread : decodeRecord headerRecord readHeaderPart (issuedHeader.toList.map some) =
      .ok [("alg", .algorithm .hs256), ("typ", .described)] := by
    rw [hsource]
    refine @decodeRecord_writeObject _ _ _ _ headerMembers ?_ (by simp [headerMembers]) ?_ rfl
    · intro m hm
      simp only [headerMembers, List.mem_cons, List.not_mem_nil, or_false] at hm
      rcases hm with rfl | rfl <;> exact isLexed_writeText _
    · exact .cons (.text _) (fun behind => .known rfl rfl rfl) (.cons (.text _)
        (fun behind => .known rfl rfl rfl) (.nil _))
  simp only [readAlgorithm, hread]
  rfl

/-! ### Tokens -/

theorem dot_not_mem_encode (bytes : List UInt8) : '.' ∉ Base64.encode Base64.urlSafe bytes := by
  have hall : ∀ n < 64, Base64.urlSafe.char n ≠ '.' := by decide
  rw [Base64.encode_eq]
  intro hdot
  obtain ⟨n, hn, hchar⟩ := List.mem_map.mp hdot
  exact hall n (Base64.sextets_lt hn) hchar

theorem decodePart_encodePart (s : String) :
    decodePart (encodePart s) = some (s.toList.map some) := by
  rw [decodePart, encodePart, Base64.decode_encode Base64.urlSafe_readable, Option.map_some,
    Utf8.decode_encode]

/-- A token that was signed is cut into the pieces that it was put together from. -/
theorem splitAll_sign (key : String) (c : Claims) :
    splitAll '.' (sign key c).toList =
      [encodePart issuedHeader, encodePart c.encode,
        signature key (encodePart issuedHeader ++ '.' :: encodePart c.encode)] := by
  refine splitAll_eq_three.mpr
    ⟨?_, dot_not_mem_encode _, dot_not_mem_encode _, dot_not_mem_encode _⟩
  rw [sign, String.toList_ofList, List.append_assoc, List.cons_append]

theorem verify_sign (key : String) {c : Claims} (h : c.Fit) :
    verify key (sign key c) = .ok c := by
  simp only [verify, splitAll_sign, decodePart_encodePart, Option.bind_some,
    readAlgorithm_issuedHeader, decode_encode h, if_true]

/-- Tokens with different claims are different, whatever they are signed with. -/
theorem sign_injective {key key' : String} {c c' : Claims} (h : c.Fit) (h' : c'.Fit)
    (hsame : sign key c = sign key' c') : c = c' := by
  have hpieces := splitAll_sign key c
  rw [hsame, splitAll_sign] at hpieces
  have hpayload : encodePart c'.encode = encodePart c.encode := by
    injection hpieces with _ hrest
    injection hrest
  have hdecoded := decodePart_encodePart c.encode
  rw [← hpayload, decodePart_encodePart] at hdecoded
  have hclaims := decode_encode h
  rw [← Option.some.inj hdecoded, decode_encode h'] at hclaims
  exact (Option.some.inj hclaims).symm

end OrderDesk.Bearer
