/-
The identifier that a request is given.

A caller may give one in a header: from one to 128 characters that can be seen, with spaces and
tabs around them.  Of several such headers only the first counts, whether it is of use or not.

    " edge-7 "            edge-7
    "edge 7"              one that is made from random bytes
    "edge-7", "edge-8"    edge-7
    "edge 7", "edge-8"    one that is made from random bytes

Either way the identifier is safe: whoever reads it in a log or in a response sees one short word
of ASCII.  In particular it can always be sent, so no response is left without it.
-/
import OrderDesk.Http.RequestId
import OrderDesk.Proofs.Bearer.Credential
import OrderDesk.Proofs.Text.Uuid

namespace OrderDesk.Http.RequestId

open OrderDesk.Bearer (IsEmptyValue IsHeaderChar)
open OrderDesk.Text

/-- An identifier that can be written down and sent as it is: from one to 128 characters of
ASCII, all of which can be seen. -/
structure IsSafe (id : String) : Prop where
  one_le : 1 ≤ id.length
  le : id.length ≤ 128
  visible : ∀ c ∈ id.toList, Bearer.IsVisible c

/-- The value of a header is the identifier, with spaces and tabs around it or without. -/
def Pads (value : List UInt8) (id : String) : Prop :=
  ∃ before behind, value = before ++ Utf8.encode id ++ behind ∧
    IsEmptyValue before ∧ IsEmptyValue behind

/-- The request gives this identifier in the first header that is there for it. -/
structure Gives (r : Request) (id : String) : Prop where
  first : ∃ before value behind, r.headers = before ++ (headerName, value) :: behind ∧
    (∀ h ∈ before, h.1 ≠ headerName) ∧ Pads value id
  safe : IsSafe id

/-- The identifier is made from these random bytes and from nothing else: it has the form of a
random identifier, and no other bytes make it unless they differ where they are marked over. -/
structure IsFresh (random : Vector UInt8 16) (id : String) : Prop where
  form : Uuid.IsRandom id
  made : id = Uuid.ofRandom random
  bits : ∀ other, id = Uuid.ofRandom other →
    ∀ (i : Nat) (h : i < 16), Uuid.mark i other[i] = Uuid.mark i random[i]

/-! ### Identifiers that are of use -/

theorem isGraphic_iff {c : Char} : isGraphic c = true ↔ Bearer.IsVisible c := by
  rw [isGraphic, Bool.and_eq_true, decide_eq_true_eq, decide_eq_true_eq, Bearer.IsVisible]
  exact and_congr_right fun _ => Nat.lt_succ_iff.symm

/-- Of characters that can be seen there are as many as bytes. -/
theorem utf8ByteSize_of_visible {id : String} (h : ∀ c ∈ id.toList, Bearer.IsVisible c) :
    id.utf8ByteSize = id.length := by
  have hsize := utf8ByteSize_of_ascii fun c hc => Nat.le_of_lt (h c hc).2
  rwa [String.ofList_toList, String.length_toList] at hsize

theorem isUsable_iff {id : String} : isUsable id = true ↔ IsSafe id := by
  have hempty : id ≠ "" ↔ 1 ≤ id.length := by
    rw [Nat.one_le_iff_ne_zero, ne_eq, ne_eq, ← String.length_toList, List.length_eq_zero_iff,
      ← String.toList_inj]
    rfl
  have hgraphic : id.toList.all isGraphic = true ↔ ∀ c ∈ id.toList, Bearer.IsVisible c := by
    rw [List.all_eq_true]
    exact forall₂_congr fun _ _ => isGraphic_iff
  rw [isUsable, Bool.and_eq_true, Bool.and_eq_true, decide_eq_true_eq, decide_eq_true_eq, hempty,
    hgraphic]
  constructor
  · rintro ⟨⟨hone, hle⟩, hvisible⟩
    exact ⟨hone, utf8ByteSize_of_visible hvisible ▸ hle, hvisible⟩
  · rintro ⟨hone, hle, hvisible⟩
    exact ⟨⟨hone, utf8ByteSize_of_visible hvisible ▸ hle⟩, hvisible⟩

/-! ### Spaces and tabs around an identifier -/

/-- Spaces and tabs are a text, of which nothing is left without its blanks. -/
theorem exists_text_of_isEmptyValue {bytes : List UInt8} (h : IsEmptyValue bytes) :
    ∃ s, bytes = Utf8.encode s ∧ (∀ c ∈ s.toList, IsHeaderChar c) ∧
      ∀ c ∈ s.toList, isBlank c = true := by
  have htext : headerText? bytes =
      some (String.ofList (bytes.map fun b => Char.ofNat b.toNat)) := by
    rw [headerText?, if_pos]
    rw [List.all_eq_true]
    intro b hb
    rcases h b hb with rfl | rfl <;> decide
  obtain ⟨hbytes, hchars⟩ := Bearer.headerText?_eq_some_iff.mp htext
  rw [hbytes, Bearer.isEmptyValue_iff hchars, trim_eq_nil_iff] at h
  exact ⟨_, hbytes, hchars, h⟩

theorem encode_append (s t : String) : Utf8.encode (s ++ t) = Utf8.encode s ++ Utf8.encode t := by
  rw [Utf8.encode_eq, Utf8.encode_eq, Utf8.encode_eq, String.toList_append, List.flatMap_append]

/-- The blanks of a header's text are spaces and tabs. -/
theorem isEmptyValue_of_blank {cs : List Char} (hchars : ∀ c ∈ cs, IsHeaderChar c)
    (hblank : ∀ c ∈ cs, isBlank c = true) : IsEmptyValue (Utf8.encode (String.ofList cs)) := by
  rw [Bearer.isEmptyValue_iff (by rwa [String.toList_ofList]), String.toList_ofList]
  exact trim_eq_nil_iff.mpr hblank

/-- **What is left of a header's text without its blanks is what stands between the spaces and
tabs of the header.** -/
theorem exists_trimmed_iff {value : List UInt8} {id : String}
    (hvisible : ∀ c ∈ id.toList, Bearer.IsVisible c) :
    (∃ text, headerText? value = some text ∧ trimmed text = id) ↔ Pads value id := by
  constructor
  · rintro ⟨text, htext, rfl⟩
    obtain ⟨rfl, hchars⟩ := Bearer.headerText?_eq_some_iff.mp htext
    obtain ⟨before, behind, hsplit, hbefore, hbehind⟩ := (isCore_trim text.toList).split
    have hjoined : text = String.ofList before ++ trimmed text ++ String.ofList behind := by
      rw [← String.toList_inj, String.toList_append, String.toList_append, trimmed,
        String.toList_ofList, String.toList_ofList, String.toList_ofList, ← hsplit]
    rw [hsplit] at hchars
    obtain ⟨hfront, hchars⟩ := List.forall_mem_append.mp hchars
    obtain ⟨hfront, -⟩ := List.forall_mem_append.mp hfront
    refine ⟨_, _, ?_, isEmptyValue_of_blank hfront hbefore, isEmptyValue_of_blank hchars hbehind⟩
    rw [← encode_append, ← encode_append, ← hjoined]
  · rintro ⟨_, _, rfl, hbefore, hbehind⟩
    obtain ⟨s, rfl, hs, hsblank⟩ := exists_text_of_isEmptyValue hbefore
    obtain ⟨t, rfl, ht, htblank⟩ := exists_text_of_isEmptyValue hbehind
    have htoList : (s ++ id ++ t).toList = s.toList ++ id.toList ++ t.toList := by
      rw [String.toList_append, String.toList_append]
    have hchars : ∀ c ∈ (s ++ id ++ t).toList, IsHeaderChar c := by
      rw [htoList]
      exact List.forall_mem_append.mpr ⟨List.forall_mem_append.mpr
        ⟨hs, fun c hc => .inl (hvisible c hc)⟩, ht⟩
    refine ⟨s ++ id ++ t, Bearer.headerText?_eq_some_iff.mpr ⟨?_, hchars⟩, ?_⟩
    · rw [encode_append, encode_append]
    · have hplain : ∀ c ∈ id.toList, isBlank c = false :=
        fun c hc => isBlank_of_bounds (hvisible c hc)
      rw [trimmed, htoList, trim_around hsblank htblank hplain, String.ofList_toList]

/-! ### The identifier of a request -/

section OfRequest

variable {r : Request} {id : String} {random : Vector UInt8 16}

/-- **The identifier that is found is the one that the request gives.** -/
theorem given?_eq_some_iff : given? r = some id ↔ Gives r id := by
  have hfirst : ∀ value, r.header? headerName = some value ↔
      ∃ before behind, r.headers = before ++ (headerName, value) :: behind ∧
        ∀ h ∈ before, h.1 ≠ headerName := by
    intro value
    rw [Request.header?, List.lookup_eq_some_iff]
    simp only [bne_iff_ne, ne_comm]
  rw [given?, Option.filter_eq_some_iff, isUsable_iff, Option.map_eq_some_iff]
  simp only [Option.bind_eq_some_iff]
  constructor
  · rintro ⟨⟨text, ⟨value, hvalue, htext⟩, htrimmed⟩, hsafe⟩
    obtain ⟨before, behind, hheaders, hbefore⟩ := (hfirst value).mp hvalue
    have hpads := (exists_trimmed_iff hsafe.visible).mp ⟨text, htext, htrimmed⟩
    exact ⟨⟨before, value, behind, hheaders, hbefore, hpads⟩, hsafe⟩
  · rintro ⟨⟨before, value, behind, hheaders, hbefore, hpads⟩, hsafe⟩
    obtain ⟨text, htext, htrimmed⟩ := (exists_trimmed_iff hsafe.visible).mpr hpads
    exact ⟨⟨text, ⟨value, (hfirst value).mpr ⟨before, behind, hheaders, hbefore⟩, htext⟩,
      htrimmed⟩, hsafe⟩

theorem ofRequest_of_gives (h : Gives r id) : ofRequest r random = id := by
  rw [ofRequest, given?_eq_some_iff.mpr h]
  rfl

theorem ofRequest_of_not_gives (h : ∀ id, ¬Gives r id) :
    ofRequest r random = Uuid.ofRandom random := by
  have hnone : given? r = none := by
    rw [Option.eq_none_iff_forall_ne_some]
    exact fun id hid => h id (given?_eq_some_iff.mp hid)
  rw [ofRequest, hnone]
  rfl

theorem isFresh_ofRandom (random : Vector UInt8 16) : IsFresh random (Uuid.ofRandom random) where
  form := Uuid.isRandom_ofRandom random
  made := rfl
  bits _ hid i h := (Uuid.ofRandom_eq_iff.mp hid i h).symm

/-- Every character of a random identifier can be seen, and there are thirty-six. -/
theorem isSafe_of_isRandom (h : Uuid.IsRandom id) : IsSafe id := by
  have hplaces : ∀ place ∈ Uuid.template.toList, (Uuid.standsFor place).all isGraphic = true :=
    List.all_iff_forall_prop.mp (by decide)
  have hlength : id.length = 36 := by
    rw [← String.length_toList, List.Forall₂.length_eq h]
    decide
  refine ⟨by omega, by omega, ?_⟩
  intro c hc
  obtain ⟨place, hplace, hstands⟩ := Uuid.exists_place h hc
  exact isGraphic_iff.mp (List.all_eq_true.mp (hplaces place hplace) c hstands)

/-- **Every request has a safe identifier.** -/
theorem isSafe_ofRequest (r : Request) (random : Vector UInt8 16) :
    IsSafe (ofRequest r random) := by
  by_cases hgives : ∃ id, Gives r id
  · obtain ⟨id, hid⟩ := hgives
    rw [ofRequest_of_gives hid]
    exact hid.safe
  · rw [ofRequest_of_not_gives fun id hid => hgives ⟨id, hid⟩]
    exact isSafe_of_isRandom (Uuid.isRandom_ofRandom random)

end OfRequest

/-! ### Sending it -/

/-- What is safe can be sent. -/
theorem IsSafe.sendable {id : String} (h : IsSafe id) :
    ∀ b ∈ Utf8.encode id, isHeaderValueByte b = true := by
  have hall : ∀ n < 127, 32 < n → isHeaderValueByte (UInt8.ofNat n) = true := by decide
  rw [Bearer.encode_ascii fun c hc => Nat.lt_succ_of_lt (h.visible c hc).2, List.forall_mem_map]
  intro c hc
  obtain ⟨hlow, hhigh⟩ := h.visible c hc
  exact hall c.toNat hhigh hlow

/-- **A safe identifier is put into every response, once.** -/
theorem IsSafe.headers_stamp {id : String} (h : IsSafe id) (response : Response) :
    (stamp id response).headers.filter (fun header => header.1 = headerName) =
      [(headerName, id)] := by
  rw [stamp, if_pos (List.all_eq_true.mpr h.sendable), Response.setHeader, List.filter_append,
    List.filter_filter]
  simp

end OrderDesk.Http.RequestId
