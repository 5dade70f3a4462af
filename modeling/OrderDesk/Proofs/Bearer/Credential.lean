/-
Finding the token of a caller.

A header carries a token if it is the word `Bearer`, in any case, one space and the token, and
the token has nothing in it but characters that can be seen and tabs.  What a header carries is
found.  A header of nothing but spaces and tabs is no better than none, and every other one is
malformed:

    "bearer a.b"      the token a.b
    "   "             none
    "Bearer  a.b"     malformed, as it has two spaces

Tokens that are issued have no character that cannot be seen, so they can be sent.
-/
import Mathlib.Data.Bool.AllAny
import Mathlib.Data.List.Basic
import OrderDesk.Bearer.Credential
import OrderDesk.Proofs.Bearer.Signed
import OrderDesk.Proofs.Text.Blank

namespace OrderDesk.Bearer

open OrderDesk.Http
open OrderDesk.Text

/-- A character that can be seen, and is no blank. -/
def IsVisible (c : Char) : Prop := 32 < c.toNat ∧ c.toNat < 127

theorem encode_ascii {s : String} (h : ∀ c ∈ s.toList, c.toNat < 128) :
    Utf8.encode s = s.toList.map fun c => UInt8.ofNat c.toNat := by
  rw [Utf8.encode_eq]
  revert h
  induction s.toList with
  | nil => exact fun _ => rfl
  | cons c rest ih =>
      intro h
      obtain ⟨hc, hrest⟩ := List.forall_mem_cons.mp h
      have hbyte : String.utf8EncodeChar c = [UInt8.ofNat c.toNat] := by
        have hval : c.val.toNat ≤ 0x7f := Nat.le_of_lt_succ hc
        rw [String.utf8EncodeChar, if_pos hval]
        rfl
      rw [List.flatMap_cons, hbyte, ih hrest]
      rfl

/-- A character that may stand in the text of a header: one that can be seen, a space or a tab. -/
def IsHeaderChar (c : Char) : Prop := IsVisible c ∨ c = ' ' ∨ c = '\t'

theorem IsHeaderChar.lt {c : Char} (h : IsHeaderChar c) : c.toNat < 128 := by
  rcases h with ⟨_, hhigh⟩ | rfl | rfl
  · omega
  · decide
  · decide

theorem ofNat_toNat_byte {c : Char} (h : c.toNat < 128) :
    Char.ofNat (UInt8.ofNat c.toNat).toNat = c := by
  rw [Utf8.toNat_byte (by omega), Char.ofNat_toNat]

theorem toNat_byteChar (b : UInt8) : (Char.ofNat b.toNat).toNat = b.toNat :=
  toNat_ofNat (Nat.lt_trans b.toNat_lt (by decide))

theorem isHeaderText_iff {b : UInt8} :
    isHeaderText b = true ↔ IsHeaderChar (Char.ofNat b.toNat) := by
  have hall : ∀ n < 256, isHeaderText (UInt8.ofNat n) = true ↔
      (32 < n ∧ n < 127) ∨ Char.ofNat n = ' ' ∨ Char.ofNat n = '\t' := by decide +kernel
  have hb := hall b.toNat b.toNat_lt
  rw [UInt8.ofNat_toNat] at hb
  rw [hb, IsHeaderChar, IsVisible, toNat_byteChar]

/-- **The value of a header is a text if it is the bytes of one**, of characters that can be seen,
spaces and tabs. -/
theorem headerText?_eq_some_iff {bytes : List UInt8} {s : String} :
    headerText? bytes = some s ↔ bytes = Utf8.encode s ∧ ∀ c ∈ s.toList, IsHeaderChar c := by
  have hback : (bytes.map fun b => Char.ofNat b.toNat).map (fun c => UInt8.ofNat c.toNat) =
      bytes := by
    rw [List.map_map]
    refine (List.map_congr_left ?_).trans (List.map_id _)
    intro b _
    rw [Function.comp_apply, toNat_byteChar, UInt8.ofNat_toNat, id]
  constructor
  · intro h
    rw [headerText?] at h
    split at h
    · next hall =>
      cases h
      have hchars : ∀ c ∈ (String.ofList (bytes.map fun b => Char.ofNat b.toNat)).toList,
          IsHeaderChar c := by
        intro c hc
        rw [String.toList_ofList] at hc
        obtain ⟨b, hb, rfl⟩ := List.mem_map.mp hc
        exact isHeaderText_iff.mp (List.all_eq_true.mp hall b hb)
      refine ⟨?_, hchars⟩
      rw [encode_ascii fun c hc => (hchars c hc).lt, String.toList_ofList, hback]
    · cases h
  · rintro ⟨rfl, hchars⟩
    have hsame : (Utf8.encode s).map (fun b => Char.ofNat b.toNat) = s.toList := by
      rw [encode_ascii fun c hc => (hchars c hc).lt, List.map_map]
      refine (List.map_congr_left ?_).trans (List.map_id _)
      exact fun c hc => ofNat_toNat_byte (hchars c hc).lt
    have hall : (Utf8.encode s).all isHeaderText = true := by
      rw [List.all_eq_true]
      intro b hb
      rw [isHeaderText_iff]
      refine hchars _ ?_
      rw [← hsame]
      exact List.mem_map_of_mem hb
    rw [headerText?, if_pos hall, hsame, String.ofList_toList]

/-! ### What a header carries -/

/-- A character that may stand in a token that is sent: one that can be seen, or a tab. -/
def MayStand (c : Char) : Prop := IsVisible c ∨ c = '\t'

/-- The value is the word `Bearer` in any case, one space and this token. -/
def Carries (bytes : List UInt8) (token : String) : Prop :=
  ∃ scheme, bytes = Utf8.encode (scheme ++ " " ++ token) ∧
    equalIgnoringCase scheme.toList "bearer".toList = true ∧ token ≠ "" ∧
    ∀ c ∈ token.toList, MayStand c

/-- A value of nothing but spaces and tabs. -/
def IsEmptyValue (bytes : List UInt8) : Prop := ∀ b ∈ bytes, b = 32 ∨ b = 9

theorem mayStand_iff {c : Char} : MayStand c ↔ IsHeaderChar c ∧ c ≠ ' ' := by
  constructor
  · rintro (hvisible | rfl)
    · refine ⟨Or.inl hvisible, ?_⟩
      rintro rfl
      exact absurd hvisible.1 (by decide)
    · exact ⟨Or.inr (Or.inr rfl), by decide⟩
  · rintro ⟨hvisible | rfl | rfl, hspace⟩
    · exact Or.inl hvisible
    · exact absurd rfl hspace
    · exact Or.inr rfl

/-- The characters of the word `Bearer` can be seen, in whatever case they are. -/
theorem isVisible_of_equalIgnoringCase {scheme : List Char}
    (h : equalIgnoringCase scheme "bearer".toList = true) {c : Char} (hc : c ∈ scheme) :
    IsVisible c := by
  have hword : ∀ d ∈ "bearer".toList.map lowerAscii, 97 ≤ d.toNat ∧ d.toNat ≤ 122 :=
    List.all_iff_forall_prop.mp (by decide)
  have hlower : lowerAscii c ∈ "bearer".toList.map lowerAscii := by
    rw [← beq_iff_eq.mp h]
    exact List.mem_map_of_mem hc
  have hbounds := hword _ hlower
  rw [toNat_lowerAscii] at hbounds
  unfold IsVisible
  split at hbounds
  · next hcapital =>
    have hletter := capital_bounds hcapital
    omega
  · omega

theorem toList_carried (scheme token : String) :
    (scheme ++ " " ++ token).toList = scheme.toList ++ ' ' :: token.toList := by
  rw [String.toList_append, String.toList_append, List.append_assoc]
  rfl

/-- Every character of a value that carries a token is one of a header's text. -/
theorem isHeaderChar_of_carried {scheme token : String}
    (hscheme : equalIgnoringCase scheme.toList "bearer".toList = true)
    (htoken : ∀ c ∈ token.toList, MayStand c) :
    ∀ c ∈ (scheme ++ " " ++ token).toList, IsHeaderChar c := by
  intro c hc
  rw [toList_carried] at hc
  rcases List.mem_append.mp hc with hc | hc
  · exact Or.inl (isVisible_of_equalIgnoringCase hscheme hc)
  rcases List.mem_cons.mp hc with rfl | hc
  · exact Or.inr (Or.inl rfl)
  · exact (mayStand_iff.mp (htoken c hc)).1

/-- **A token that is carried is found.** -/
theorem tokenOf_of_carries {bytes : List UInt8} {token : String} (h : Carries bytes token) :
    tokenOf (some bytes) = .ok token := by
  obtain ⟨scheme, rfl, hscheme, hne, htoken⟩ := h
  have hheader : headerText? (Utf8.encode (scheme ++ " " ++ token)) =
      some (scheme ++ " " ++ token) :=
    headerText?_eq_some_iff.mpr ⟨rfl, isHeaderChar_of_carried hscheme htoken⟩
  have hvisible : ∀ c ∈ scheme.toList, IsVisible c := fun _ =>
    isVisible_of_equalIgnoringCase hscheme
  have hpieces : splitAll ' ' (scheme ++ " " ++ token).toList =
      [scheme.toList, token.toList] := by
    refine splitAll_eq_two.mpr ⟨toList_carried scheme token, ?_, ?_⟩
    · exact fun hspace => absurd (hvisible ' ' hspace).1 (by decide)
    · exact fun hspace => (mayStand_iff.mp (htoken ' ' hspace)).2 rfl
  have hblank : trim (scheme ++ " " ++ token).toList ≠ [] := by
    -- the first letter of the word is no blank
    intro hnil
    cases hletters : scheme.toList with
    | nil =>
        rw [hletters] at hscheme
        exact absurd hscheme (by decide)
    | cons c rest =>
        have hc : c ∈ scheme.toList := by simp [hletters]
        have hblankc := trim_eq_nil_iff.mp hnil c (by simp [hletters])
        rw [isBlank_of_bounds (hvisible c hc)] at hblankc
        cases hblankc
  have hlist : token.toList ≠ [] := fun hnil => hne (String.toList_inj.mp hnil)
  simp only [tokenOf, hheader, if_neg hblank, hpieces, if_pos (And.intro hscheme hlist),
    String.ofList_toList]

/-- A token of visible characters is found behind the word `Bearer`. -/
theorem tokenOf_bearer {token : String} (hne : token ≠ "") (h : ∀ c ∈ token.toList, IsVisible c) :
    tokenOf (some (Utf8.encode ("Bearer " ++ token))) = .ok token :=
  tokenOf_of_carries ⟨"Bearer", rfl, by decide, hne, fun c hc => Or.inl (h c hc)⟩

/-- A header that has a text is empty if the text is. -/
theorem isEmptyValue_iff {s : String} (h : ∀ c ∈ s.toList, IsHeaderChar c) :
    IsEmptyValue (Utf8.encode s) ↔ trim s.toList = [] := by
  have hblank : ∀ c ∈ s.toList,
      (UInt8.ofNat c.toNat = 32 ∨ UInt8.ofNat c.toNat = 9) ↔ isBlank c = true := by
    intro c hc
    rcases h c hc with hvisible | rfl | rfl
    · rw [isBlank_of_bounds hvisible]
      have hbyte := Utf8.toNat_byte (show c.toNat < 256 by unfold IsVisible at hvisible; omega)
      have hbounds := hvisible.1
      simp only [← UInt8.toNat_inj, hbyte]
      simp
      omega
    · decide
    · decide
  rw [trim_eq_nil_iff, IsEmptyValue, encode_ascii fun c hc => (h c hc).lt, List.forall_mem_map]
  exact forall₂_congr hblank

/-- **A token that is found was carried.** -/
theorem carries_of_tokenOf {bytes : List UInt8} {token : String}
    (h : tokenOf (some bytes) = .ok token) : Carries bytes token := by
  unfold tokenOf at h
  dsimp only at h
  split at h
  · cases h
  next s hheader =>
  obtain ⟨rfl, hchars⟩ := headerText?_eq_some_iff.mp hheader
  split at h
  · cases h
  split at h
  · next scheme piece hpieces =>
    split at h
    · next hgood =>
      cases h
      obtain ⟨hsplit, -, hspace⟩ := splitAll_eq_two.mp hpieces
      have hs : s = String.ofList scheme ++ " " ++ String.ofList piece := by
        rw [← String.toList_inj, toList_carried, String.toList_ofList, String.toList_ofList, hsplit]
      refine ⟨String.ofList scheme, congrArg Utf8.encode hs, ?_, ?_, ?_⟩
      · rw [String.toList_ofList]
        exact hgood.1
      · intro hempty
        exact hgood.2 (by rw [← String.toList_ofList (l := piece), hempty]; rfl)
      · intro c hc
        rw [String.toList_ofList] at hc
        refine mayStand_iff.mpr ⟨hchars c ?_, ?_⟩
        · rw [hsplit]
          exact List.mem_append_right _ (List.mem_cons_of_mem _ hc)
        · rintro rfl
          exact hspace hc
    · cases h
  · cases h

/-- **No token is missed but in an empty header.** -/
theorem tokenOf_eq_missing_iff {bytes : List UInt8} :
    tokenOf (some bytes) = .error .missing ↔ IsEmptyValue bytes := by
  cases hheader : headerText? bytes with
  | none =>
      have hempty : ¬IsEmptyValue bytes := by
        intro hempty
        have hall : bytes.all isHeaderText = true := by
          rw [List.all_eq_true]
          intro b hb
          rcases hempty b hb with rfl | rfl <;> decide
        rw [headerText?, if_pos hall] at hheader
        cases hheader
      simp [tokenOf, hheader, hempty]
  | some s =>
      obtain ⟨rfl, hchars⟩ := headerText?_eq_some_iff.mp hheader
      rw [isEmptyValue_iff hchars]
      by_cases hblank : trim s.toList = []
      · simp [tokenOf, hheader, hblank]
      · refine iff_of_false ?_ hblank
        simp only [tokenOf, hheader, if_neg hblank]
        split
        · split <;> simp
        · simp

/-- What spoils a value that is not empty: a byte beyond ASCII, more or fewer spaces than one, a
space at either end, or another word than `Bearer`. -/
inductive IsSpoilt (bytes : List UInt8) : Prop where
  | high (h : ∃ b ∈ bytes, 128 ≤ b)
  | spaces (h : bytes.count 32 ≠ 1)
  | leading (h : bytes.head? = some 32)
  | trailing (h : bytes.getLast? = some 32)
  | scheme (word rest : List UInt8) (h : bytes = word ++ 32 :: rest) (hspace : 32 ∉ word)
      (hother : ∀ s : String, equalIgnoringCase s.toList "bearer".toList = true →
        word ≠ Utf8.encode s)

/-- The space is the only character whose bytes have the one of the space, in a header's text. -/
theorem space_notMem_encode {s : String} (h : ∀ c ∈ s.toList, MayStand c) :
    32 ∉ Utf8.encode s := by
  have hchars := fun c hc => mayStand_iff.mp (h c hc)
  rw [encode_ascii fun c hc => (hchars c hc).1.lt]
  intro hmem
  obtain ⟨c, hc, hbyte⟩ := List.mem_map.mp hmem
  have hsame := ofNat_toNat_byte (hchars c hc).1.lt
  rw [hbyte] at hsame
  exact (hchars c hc).2 hsame.symm

theorem encode_ne_nil {s : String} (h : s.toList ≠ []) : Utf8.encode s ≠ [] := by
  obtain ⟨c, rest, hs⟩ := List.exists_cons_of_ne_nil h
  rw [Utf8.encode_eq, hs, List.flatMap_cons]
  exact List.append_ne_nil_of_left_ne_nil (String.utf8EncodeChar_ne_nil) _

/-- The bytes of a value that carries a token. -/
theorem Carries.bytes {bytes : List UInt8} {token : String} (h : Carries bytes token) :
    ∃ scheme, bytes = Utf8.encode scheme ++ 32 :: Utf8.encode token ∧
      equalIgnoringCase scheme.toList "bearer".toList = true ∧ (∀ b ∈ bytes, b < 128) ∧
      Utf8.encode scheme ≠ [] ∧ Utf8.encode token ≠ [] ∧
      32 ∉ Utf8.encode scheme ∧ 32 ∉ Utf8.encode token := by
  obtain ⟨scheme, rfl, hscheme, hne, htoken⟩ := h
  have hchars := isHeaderChar_of_carried hscheme htoken
  have hvisible : ∀ c ∈ scheme.toList, MayStand c := fun c hc =>
    Or.inl (isVisible_of_equalIgnoringCase hscheme hc)
  refine ⟨scheme, ?_, hscheme, ?_, encode_ne_nil ?_, encode_ne_nil ?_,
    space_notMem_encode hvisible, space_notMem_encode htoken⟩
  · simp only [Utf8.encode_eq, toList_carried, List.flatMap_append, List.flatMap_cons]
    rfl
  · rw [encode_ascii fun c hc => (hchars c hc).lt, List.forall_mem_map]
    intro c hc
    rw [UInt8.lt_iff_toNat_lt, Utf8.toNat_byte (Nat.lt_trans (hchars c hc).lt (by decide))]
    exact (hchars c hc).lt
  · intro hnil
    rw [hnil] at hscheme
    exact absurd hscheme (by decide)
  · exact fun hnil => hne (String.toList_inj.mp hnil)

theorem not_carries_of_isSpoilt {bytes : List UInt8} (h : IsSpoilt bytes) (token : String) :
    ¬Carries bytes token := by
  intro hcarries
  obtain ⟨scheme, hbytes, hscheme, hascii, hword, hrest, hfree, hfree'⟩ := hcarries.bytes
  cases h with
  | high h =>
      obtain ⟨b, hb, hhigh⟩ := h
      exact absurd (hascii b hb) (UInt8.not_lt.mpr hhigh)
  | spaces h =>
      refine h ?_
      rw [hbytes, List.count_append, List.count_cons_self, List.count_eq_zero_of_not_mem hfree,
        List.count_eq_zero_of_not_mem hfree']
  | leading h =>
      rw [hbytes, List.head?_append_of_ne_nil _ hword] at h
      exact hfree (List.mem_of_head? h)
  | trailing h =>
      rw [hbytes, List.getLast?_append_cons, List.getLast?_cons_of_ne_nil hrest] at h
      exact hfree' (List.mem_of_getLast? h)
  | scheme word rest h hspace hother =>
      rw [hbytes] at h
      obtain ⟨hsame, -, -⟩ := (List.append_cons_inj_of_notMem hfree hfree').mp h
      exact hother scheme hscheme hsame.symm

/-- What is neither empty nor carries a token is malformed. -/
theorem tokenOf_eq_malformed_iff {bytes : List UInt8} :
    tokenOf (some bytes) = .error .malformed ↔
      ¬IsEmptyValue bytes ∧ ∀ token, ¬Carries bytes token := by
  constructor
  · intro h
    constructor
    · rw [← tokenOf_eq_missing_iff, h]
      simp
    · intro token hcarries
      rw [tokenOf_of_carries hcarries] at h
      cases h
  · rintro ⟨hempty, hcarries⟩
    rcases hfound : tokenOf (some bytes) with (_ | _) | token
    · exact absurd (tokenOf_eq_missing_iff.mp hfound) hempty
    · rfl
    · exact absurd (carries_of_tokenOf hfound) (hcarries token)

/-- **A header gives the token that it carries.**  It gives one if it carries one, the one that it
carries; it gives none if it is absent or has nothing in it but spaces and tabs; every other
header is malformed, be it for a byte beyond ASCII, for its spaces or for its first word. -/
theorem tokens_are_found_exactly (value : Option (List UInt8)) :
    (∀ token, tokenOf value = .ok token ↔ ∃ bytes, value = some bytes ∧ Carries bytes token) ∧
    (tokenOf value = .error .missing ↔ ∀ bytes, value = some bytes → IsEmptyValue bytes) ∧
    (tokenOf value = .error .malformed ↔
      ∃ bytes, value = some bytes ∧ ¬IsEmptyValue bytes ∧ ∀ token, ¬Carries bytes token) ∧
    ∀ bytes, value = some bytes → ¬IsEmptyValue bytes → IsSpoilt bytes →
      tokenOf value = .error .malformed := by
  cases value with
  | none => simp [tokenOf]
  | some bytes =>
      simp only [Option.some.injEq, exists_eq_left', forall_eq', tokenOf_eq_missing_iff,
        tokenOf_eq_malformed_iff, true_and]
      refine ⟨fun token => ⟨carries_of_tokenOf, tokenOf_of_carries⟩, ?_⟩
      exact fun hempty hspoilt => ⟨hempty, not_carries_of_isSpoilt hspoilt⟩

/-- The word may be in capital letters, but no second space may stand behind it. -/
theorem one_space_behind_the_word :
    tokenOf (some (Utf8.encode "BEARER a.b")) = .ok "a.b" ∧
      tokenOf (some (Utf8.encode "BEARER  a.b")) = .error .malformed := by
  have hvisible : ∀ c ∈ "a.b".toList, MayStand c := by
    intro c hc
    have hall : ∀ d ∈ "a.b".toList, 32 < d.toNat ∧ d.toNat < 127 :=
      List.all_iff_forall_prop.mp (by decide)
    exact Or.inl (hall c hc)
  constructor
  · exact ((tokens_are_found_exactly _).1 _).mpr
      ⟨_, rfl, "BEARER", rfl, by decide, by decide, hvisible⟩
  · refine (tokens_are_found_exactly _).2.2.2 _ rfl ?_ (.spaces ?_)
    · intro hempty
      exact absurd (hempty 66 (by decide +kernel)) (by decide)
    · decide +kernel

/-! ### Tokens that are issued -/

theorem isVisible_encode {bytes : List UInt8} {c : Char}
    (h : c ∈ Base64.encode Base64.urlSafe bytes) : IsVisible c := by
  have hall : ∀ n < 64, IsVisible (Base64.urlSafe.char n) := by
    unfold IsVisible
    decide
  rw [Base64.encode_eq] at h
  obtain ⟨n, hn, rfl⟩ := List.mem_map.mp h
  exact hall n (Base64.sextets_lt hn)

theorem toList_sign (key : String) (claims : Claims) :
    (sign key claims).toList = encodePart issuedHeader ++ '.' :: (encodePart claims.encode ++ '.' ::
      signature key (encodePart issuedHeader ++ '.' :: encodePart claims.encode)) :=
  (splitAll_eq_three.mp (splitAll_sign key claims)).1

theorem sign_ne_empty (key : String) (claims : Claims) : sign key claims ≠ "" := by
  intro hempty
  have htoken := toList_sign key claims
  rw [hempty] at htoken
  simp at htoken

/-- Every character of a token that is signed here can be seen. -/
theorem isVisible_of_mem_sign {key : String} {claims : Claims} {c : Char}
    (h : c ∈ (sign key claims).toList) : IsVisible c := by
  have hdot : IsVisible '.' := by
    unfold IsVisible
    decide
  rw [toList_sign] at h
  simp only [List.mem_append, List.mem_cons] at h
  rcases h with h | rfl | h | rfl | h
  · exact isVisible_encode h
  · exact hdot
  · exact isVisible_encode h
  · exact hdot
  · exact isVisible_encode h

/-- Tokens that are signed here can be sent. -/
theorem tokenOf_sign (key : String) (claims : Claims) :
    tokenOf (some (Utf8.encode ("Bearer " ++ sign key claims))) = .ok (sign key claims) :=
  tokenOf_bearer (sign_ne_empty key claims) fun _ => isVisible_of_mem_sign

end OrderDesk.Bearer
