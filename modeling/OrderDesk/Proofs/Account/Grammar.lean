/-
Which texts are names and addresses.

A name is a row of three to sixty-four letters, digits, points, hyphens and underscores.  An
address is two parts around one at sign, not both sides of it empty, without blanks and at most
254 bytes long.  Here both are said of the text without the blanks around it and without the
readers, and the readers are shown to accept just these texts.

What is refused is refused for one reason.  A foreign character in a name is reported before its
length; the faults of an address are looked for in a fixed order, and the first one that the
text has is reported:

    "a b@@c"    a blank, and two at signs    → the blank
    "@"         nothing on either side       → nothing in front
-/
import Mathlib.Data.Bool.AllAny
import OrderDesk.Proofs.Account.Spelling

namespace OrderDesk

open OrderDesk.Text

/-! ### Bytes -/

namespace Email

/-- How long a text is in bytes. -/
theorem byteLength_eq (cs : List Char) : byteLength cs = (String.ofList cs).utf8ByteSize := by
  induction cs with
  | nil => rfl
  | cons c rest ih =>
      rw [String.ofList_cons, String.utf8ByteSize_append, String.utf8ByteSize_singleton, ← ih]
      rfl

theorem byteLength_pos {cs : List Char} (h : cs ≠ []) : 1 ≤ byteLength cs := by
  obtain ⟨c, rest, rfl⟩ := List.exists_cons_of_ne_nil h
  exact Nat.le_trans c.utf8Size_pos (Nat.le_add_right _ _)

end Email

/-! ### Names -/

namespace Username

/-- The characters of a name. -/
def alphabet : List Char :=
  "ABCDEFGHIJKLMNOPQRSTUVWXYZabcdefghijklmnopqrstuvwxyz0123456789.-_".toList

/-- A text that is a name. -/
structure IsName (t : List Char) : Prop where
  alphabet : ∀ c ∈ t, c ∈ alphabet
  three_le : 3 ≤ t.length
  le_sixtyFour : t.length ≤ 64

instance (t : List Char) : Decidable (IsName t) :=
  decidable_of_iff (t.all (fun c => c ∈ alphabet) = true ∧ 3 ≤ t.length ∧ t.length ≤ 64) <| by
    rw [List.all_iff_forall_prop]
    exact ⟨fun ⟨hall, hthree, hmax⟩ => ⟨hall, hthree, hmax⟩, fun h => ⟨h.1, h.2, h.3⟩⟩

/-- The first character of the text that may not stand in a name. -/
def IsFirstForeign (t : List Char) (c : Char) : Prop :=
  ∃ before behind, t = before ++ c :: behind ∧ (∀ d ∈ before, d ∈ alphabet) ∧ c ∉ alphabet

theorem isAllowed_iff {c : Char} : isAllowed c = true ↔ c ∈ alphabet := by
  have hascii : ∀ n < 123, isAllowed (Char.ofNat n) = true → Char.ofNat n ∈ alphabet := by
    decide +kernel
  have hall : ∀ d ∈ alphabet, isAllowed d = true :=
    List.all_eq_true.mp (by decide +kernel)
  refine ⟨fun h => ?_, hall c⟩
  have hbound : c.toNat < 123 := Nat.lt_succ_of_le (isAllowed_bounds h).2
  have hc := hascii c.toNat hbound
  rw [Char.ofNat_toNat] at hc
  exact hc h

theorem find?_eq_none_iff {t : List Char} :
    t.find? (fun c => !isAllowed c) = none ↔ ∀ c ∈ t, c ∈ alphabet := by
  simp [isAllowed_iff]

theorem find?_eq_some_iff {t : List Char} {c : Char} :
    t.find? (fun c => !isAllowed c) = some c ↔ IsFirstForeign t c := by
  rw [List.find?_eq_some_iff_append]
  simp only [Bool.not_not, Bool.not_eq_true', ← Bool.not_eq_true, isAllowed_iff]
  constructor
  · rintro ⟨hc, before, behind, hsplit, hbefore⟩
    exact ⟨before, behind, hsplit, hbefore, hc⟩
  · rintro ⟨before, behind, hsplit, hbefore, hc⟩
    exact ⟨hc, before, behind, hsplit, hbefore⟩

/-- What an answer says of the text without the blanks around it. -/
def Tells (t : List Char) : Except UsernameError Username → Prop
  | .ok name => name.text.toList = t ∧ IsName t
  | .error .empty => t = []
  | .error (.invalidCharacter c) => IsFirstForeign t c
  | .error .tooShort => t ≠ [] ∧ (∀ c ∈ t, c ∈ alphabet) ∧ t.length < 3
  | .error .tooLong => (∀ c ∈ t, c ∈ alphabet) ∧ 64 < t.length

theorem tells_parse (s : String) : Tells (trim s.toList) (parse s) := by
  unfold parse
  dsimp only
  split
  · next hnil => exact hnil
  next hne =>
  split
  · next c hc => exact find?_eq_some_iff.mp hc
  next hnone =>
  have hall := find?_eq_none_iff.mp hnone
  have hsize := utf8ByteSize_of_allowed (allowed_of_find? hnone)
  split
  · next hshort => exact ⟨hne, hall, hsize ▸ hshort⟩
  next hmin =>
  split
  · next hlong => exact ⟨hall, hsize ▸ hlong⟩
  next hmax =>
    rw [hsize] at hmin hmax
    exact ⟨String.toList_ofList, hall, Nat.le_of_not_lt hmin, Nat.le_of_not_lt hmax⟩

/-- Of a text with a foreign character nothing is told but the first one. -/
theorem Tells.of_foreign {t : List Char} {x : Except UsernameError Username} (h : Tells t x)
    {c : Char} (hc : IsFirstForeign t c) : x = .error (.invalidCharacter c) := by
  have hforeign : ¬∀ d ∈ t, d ∈ alphabet := by
    obtain ⟨before, behind, rfl, -, hout⟩ := hc
    exact fun hall => hout (hall c (by simp))
  cases x with
  | ok name => exact absurd h.2.alphabet hforeign
  | error e =>
      cases e with
      | empty =>
          obtain rfl : t = [] := h
          exact absurd (List.forall_mem_nil _) hforeign
      | tooShort => exact absurd h.2.1 hforeign
      | tooLong => exact absurd h.1 hforeign
      | invalidCharacter d =>
          have hfirst := (find?_eq_some_iff.mpr h).symm.trans (find?_eq_some_iff.mpr hc)
          rw [Option.some.inj hfirst]

/-- Of a text without a foreign character the length decides what is told. -/
theorem Tells.of_allowed {t : List Char} {x : Except UsernameError Username} (h : Tells t x)
    (hall : ∀ c ∈ t, c ∈ alphabet) :
    (x = .error .empty ∧ t.length = 0) ∨
    (x = .error .tooShort ∧ 0 < t.length ∧ t.length < 3) ∨
    (x = .error .tooLong ∧ 64 < t.length) ∨
    ∃ name, x = .ok name ∧ name.text.toList = t ∧ 3 ≤ t.length ∧ t.length ≤ 64 := by
  cases x with
  | ok name => exact .inr (.inr (.inr ⟨name, rfl, h.1, h.2.three_le, h.2.le_sixtyFour⟩))
  | error e =>
      cases e with
      | empty => exact .inl ⟨rfl, List.length_eq_zero_iff.mpr h⟩
      | tooShort => exact .inr (.inl ⟨rfl, List.length_pos_iff.mpr h.1, h.2.2⟩)
      | tooLong => exact .inr (.inr (.inl ⟨rfl, h.2⟩))
      | invalidCharacter c =>
          obtain ⟨before, behind, rfl, -, hout⟩ := h
          exact absurd (hall c (by simp)) hout

/-- No two answers can be told of one text. -/
theorem Tells.unique {t : List Char} {x y : Except UsernameError Username} (hx : Tells t x)
    (hy : Tells t y) : x = y := by
  cases hfind : t.find? (fun c => !isAllowed c) with
  | some c =>
      have hc := find?_eq_some_iff.mp hfind
      rw [hx.of_foreign hc, hy.of_foreign hc]
  | none =>
      -- the four lengths exclude each other, and a name is its text
      have hall := find?_eq_none_iff.mp hfind
      rcases hx.of_allowed hall with ⟨rfl, hx⟩ | ⟨rfl, hx⟩ | ⟨rfl, hx⟩ | ⟨a, rfl, ha, hx⟩ <;>
        rcases hy.of_allowed hall with ⟨rfl, hy⟩ | ⟨rfl, hy⟩ | ⟨rfl, hy⟩ | ⟨b, rfl, hb, hy⟩ <;>
        first
        | rfl
        | omega
        | exact congrArg Except.ok (eq_of_text (String.toList_inj.mp (ha.trans hb.symm)))

/-- A text that is a name is read as that name. -/
theorem parse_of_isName {s : String} (h : IsName (trim s.toList)) :
    ∃ name, parse s = .ok name ∧ name.text = trimmed s := by
  have hwell : WellFormed (trimmed s).toList := by
    rw [trimmed, String.toList_ofList]
    exact ⟨fun c hc => isAllowed_iff.mpr (h.alphabet c hc), h.three_le, h.le_sixtyFour⟩
  have htells : Tells (trim s.toList) (.ok ⟨trimmed s, hwell⟩) := ⟨String.toList_ofList, h⟩
  exact ⟨⟨trimmed s, hwell⟩, (tells_parse s).unique htells, rfl⟩

/-- A name has as many bytes as characters. -/
theorem utf8ByteSize_text (name : Username) : name.text.utf8ByteSize = name.text.length := by
  have hsize := utf8ByteSize_of_allowed name.wellFormed.allowed
  rwa [String.ofList_toList, String.length_toList] at hsize

/-- **Just the names are read, and what is no name is refused for its first fault.**  Blanks
around a text do not count.  An answer is given of just those texts that it is true of: a name
for a text that is that name, and of the faults the first character that may stand in no name
whatever the length, and otherwise the length.  So two texts name the same account if they are
the same without blanks, and a name is as long in bytes as in characters. -/
theorem names_are_read_exactly (s : String) :
    (∀ t, IsCore s.toList t ↔ t = trim s.toList) ∧
    (∀ answer, parse s = answer ↔ Tells (trim s.toList) answer) ∧
    ((∃ name, parse s = .ok name ∧ name.text = trimmed s) ↔ IsName (trim s.toList)) ∧
    (∀ name, parse s = .ok name → name.text.utf8ByteSize = name.text.length) ∧
    ∀ other a b, parse s = .ok a → parse other = .ok b →
      (a = b ↔ trim s.toList = trim other.toList) := by
  refine ⟨fun t => isCore_iff, ?_, ?_, ?_, ?_⟩
  · intro answer
    constructor
    · rintro rfl
      exact tells_parse s
    · exact (tells_parse s).unique
  · constructor
    · rintro ⟨name, hname, -⟩
      have htells := tells_parse s
      rw [hname] at htells
      exact htells.2
    · exact parse_of_isName
  · exact fun name _ => utf8ByteSize_text name
  · intro other a b ha hb
    rw [parse_eq_iff ha hb]
    exact ⟨fun h => String.ofList_injective h, congrArg String.ofList⟩

/-- A name keeps its capital letters, and a character that may not stand in a name is found in a
text of any length. -/
theorem capitals_make_another_name :
    (∃ a b, parse "\tAlice " = .ok a ∧ parse "alice" = .ok b ∧ a ≠ b) ∧
      parse "é" = .error (.invalidCharacter 'é') := by
  have hread : ∀ s : String, IsName (trim s.toList) → ∃ name, parse s = .ok name := by
    intro s hs
    obtain ⟨name, hname, -⟩ := (names_are_read_exactly s).2.2.1.mpr hs
    exact ⟨name, hname⟩
  obtain ⟨a, ha⟩ := hread "\tAlice " (by decide +kernel)
  obtain ⟨b, hb⟩ := hread "alice" (by decide +kernel)
  refine ⟨⟨a, b, ha, hb, ?_⟩, ?_⟩
  · rw [ne_eq, (names_are_read_exactly "\tAlice ").2.2.2.2 "alice" a b ha hb]
    decide +kernel
  · exact ((names_are_read_exactly "é").2.1 _).mpr
      ⟨[], [], by decide +kernel, List.forall_mem_nil _, by decide +kernel⟩

end Username

/-! ### Addresses -/

namespace Email

/-- A text that is an address with these two parts. -/
structure IsAddress (t localPart domain : List Char) : Prop where
  eq : t = localPart ++ '@' :: domain
  localPart_ne_nil : localPart ≠ []
  domain_ne_nil : domain ≠ []
  localPart_free : '@' ∉ localPart
  domain_free : '@' ∉ domain
  plain : ∀ c ∈ t, isBlank c = false
  one_le : 1 ≤ (String.ofList t).utf8ByteSize
  le_max : (String.ofList t).utf8ByteSize ≤ 254

instance (t localPart domain : List Char) : Decidable (IsAddress t localPart domain) :=
  decidable_of_iff
    (t = localPart ++ '@' :: domain ∧ (localPart ≠ [] ∧ domain ≠ []) ∧
      ('@' ∉ localPart ∧ '@' ∉ domain) ∧ t.all (fun c => isBlank c = false) = true ∧
      1 ≤ (String.ofList t).utf8ByteSize ∧ (String.ofList t).utf8ByteSize ≤ 254) <| by
    rw [List.all_iff_forall_prop]
    constructor
    · rintro ⟨heq, ⟨hlocal, hdomain⟩, ⟨hlocalFree, hdomainFree⟩, hplain, hone, hmax⟩
      exact ⟨heq, hlocal, hdomain, hlocalFree, hdomainFree, hplain, hone, hmax⟩
    · intro h
      exact ⟨h.eq, ⟨h.localPart_ne_nil, h.domain_ne_nil⟩, ⟨h.localPart_free, h.domain_free⟩,
        h.plain, h.one_le, h.le_max⟩

/-- What is wrong with a text that has this fault. -/
def Violates (t : List Char) : EmailError → Prop
  | .empty => t = []
  | .tooLong => 254 < (String.ofList t).utf8ByteSize
  | .containsWhitespace => ∃ c ∈ t, isBlank c = true
  | .missingAtSymbol => '@' ∉ t
  | .multipleAtSymbols => 1 < t.count '@'
  | .emptyLocalPart => t.head? = some '@'
  | .emptyDomain => t.getLast? = some '@'

instance (t : List Char) : DecidablePred (Violates t)
  | .empty => inferInstanceAs (Decidable (t = []))
  | .tooLong => inferInstanceAs (Decidable (254 < (String.ofList t).utf8ByteSize))
  | .containsWhitespace => decidable_of_iff (t.any isBlank = true) List.any_eq_true
  | .missingAtSymbol => inferInstanceAs (Decidable ('@' ∉ t))
  | .multipleAtSymbols => inferInstanceAs (Decidable (1 < t.count '@'))
  | .emptyLocalPart => inferInstanceAs (Decidable (t.head? = some '@'))
  | .emptyDomain => inferInstanceAs (Decidable (t.getLast? = some '@'))

/-- The faults in the order in which they are looked for. -/
def faults : List EmailError :=
  [.empty, .tooLong, .containsWhitespace, .missingAtSymbol, .multipleAtSymbols, .emptyLocalPart,
    .emptyDomain]

/-- The first fault of a text. -/
def firstFault? (t : List Char) : Option EmailError := faults.find? fun fault => Violates t fault

theorem firstFault?_eq_none_iff {t : List Char} :
    firstFault? t = none ↔ ∀ fault, ¬Violates t fault := by
  have hmem : ∀ fault, fault ∈ faults := by
    intro fault
    cases fault <;> decide
  simp [firstFault?, hmem]

/-! What the faults say of a text with an at sign. -/

section Parts

variable {localPart domain : List Char}

theorem count_parts (hfree : '@' ∉ localPart) :
    1 < (localPart ++ '@' :: domain).count '@' ↔ '@' ∈ domain := by
  rw [List.count_append, List.count_eq_zero_of_not_mem hfree, List.count_cons_self,
    ← List.count_pos_iff]
  omega

theorem head?_parts (hfree : '@' ∉ localPart) :
    (localPart ++ '@' :: domain).head? = some '@' ↔ localPart = [] := by
  constructor
  · intro hhead
    cases localPart with
    | nil => rfl
    | cons c rest =>
        cases hhead
        exact absurd (List.mem_cons_self ..) hfree
  · rintro rfl
    rfl

theorem getLast?_parts (hfree : '@' ∉ domain) :
    (localPart ++ '@' :: domain).getLast? = some '@' ↔ domain = [] := by
  constructor
  · intro hlast
    by_contra hne
    rw [List.getLast?_append_cons, List.getLast?_cons_of_ne_nil hne] at hlast
    exact hfree (List.mem_of_getLast? hlast)
  · rintro rfl
    rw [List.getLast?_append_cons]
    rfl

end Parts

/-- **An address has no fault.** -/
theorem IsAddress.firstFault? {t localPart domain : List Char}
    (h : IsAddress t localPart domain) : firstFault? t = none := by
  rw [firstFault?_eq_none_iff]
  intro fault hfault
  cases fault with
  | empty =>
      have hnil := h.eq.symm.trans hfault
      exact List.append_ne_nil_of_right_ne_nil _ (List.cons_ne_nil _ _) hnil
  | tooLong => exact Nat.not_lt_of_le h.le_max hfault
  | containsWhitespace =>
      obtain ⟨c, hc, hblank⟩ := hfault
      rw [h.plain c hc] at hblank
      cases hblank
  | missingAtSymbol =>
      refine hfault ?_
      rw [h.eq]
      exact List.mem_append_right _ (List.mem_cons_self ..)
  | multipleAtSymbols =>
      rw [Violates, h.eq, count_parts h.localPart_free] at hfault
      exact h.domain_free hfault
  | emptyLocalPart =>
      rw [Violates, h.eq, head?_parts h.localPart_free] at hfault
      exact h.localPart_ne_nil hfault
  | emptyDomain =>
      rw [Violates, h.eq, getLast?_parts h.domain_free] at hfault
      exact h.domain_ne_nil hfault

/-- Why a text was refused, if it was. -/
def faultOf : Except EmailError Email → Option EmailError
  | .ok _ => none
  | .error fault => some fault

theorem faultOf_eq_some {x : Except EmailError Email} {fault : EmailError} :
    faultOf x = some fault ↔ x = .error fault := by
  cases x <;> simp [faultOf]

/-- **A text is refused for its first fault.** -/
theorem faultOf_parse (s : String) : faultOf (parse s) = firstFault? (trim s.toList) := by
  unfold parse
  dsimp only
  generalize trim s.toList = t
  have hlength : maxLength < byteLength t ↔ Violates t .tooLong := by
    rw [byteLength_eq]
    rfl
  have hblank : t.any isBlank = true ↔ Violates t .containsWhitespace := List.any_eq_true
  split
  · next h => simp [firstFault?, faults, faultOf, show Violates t .empty from h]
  next h =>
  have hempty : ¬Violates t .empty := h
  split
  · next h => simp [firstFault?, faults, faultOf, hempty, hlength.mp h]
  next h =>
  have hlong := mt hlength.mpr h
  split
  · next h => simp [firstFault?, faults, faultOf, hempty, hlong, hblank.mp h]
  next h =>
  have hplain := mt hblank.mpr h
  split
  · next h =>
    have hnone : Violates t .missingAtSymbol := fun hat =>
      absurd (cutAt_eq_none h '@' hat) (by decide)
    simp [firstFault?, faults, faultOf, hempty, hlong, hplain, hnone]
  next localPart domain h =>
  -- from here on the text is known by its parts
  obtain ⟨c, hc, rfl, hbefore⟩ := cutAt_eq h
  obtain rfl : c = '@' := beq_iff_eq.mp hc
  have hfree : '@' ∉ localPart := fun hat => absurd (hbefore '@' hat) (by decide)
  have hsome : ¬Violates (localPart ++ '@' :: domain) .missingAtSymbol := fun hat => hat (by simp)
  split
  · next h =>
    have hmany : Violates (localPart ++ '@' :: domain) .multipleAtSymbols :=
      (count_parts hfree).mpr h
    simp [firstFault?, faults, faultOf, hempty, hlong, hplain, hsome, hmany]
  next h =>
  have hone : ¬Violates (localPart ++ '@' :: domain) .multipleAtSymbols :=
    mt (count_parts hfree).mp h
  have hlast : (localPart ++ '@' :: domain).getLast? = some '@' ↔ domain = [] := getLast?_parts h
  split
  · next h =>
    have hnothing : Violates (localPart ++ '@' :: domain) .emptyLocalPart :=
      (head?_parts hfree).mpr h
    simp [firstFault?, faults, faultOf, hempty, hlong, hplain, hsome, hone, hnothing]
  next h =>
  have hlocal : ¬Violates (localPart ++ '@' :: domain) .emptyLocalPart :=
    mt (head?_parts hfree).mp h
  split
  · next h =>
    have hnothing : Violates (localPart ++ '@' :: domain) .emptyDomain := hlast.mpr h
    simp [firstFault?, faults, faultOf, hempty, hlong, hplain, hsome, hone, hlocal, hnothing]
  next h =>
  have hdomain : ¬Violates (localPart ++ '@' :: domain) .emptyDomain := mt hlast.mp h
  simp [firstFault?, faults, faultOf, hempty, hlong, hplain, hsome, hone, hlocal, hdomain]

/-- A text that is an address is read. -/
theorem parse_of_isAddress {s : String} {localPart domain : List Char}
    (h : IsAddress (trim s.toList) localPart domain) : ∃ e, parse s = .ok e := by
  have hnone := (faultOf_parse s).trans h.firstFault?
  cases hparse : parse s with
  | ok e => exact ⟨e, rfl⟩
  | error fault =>
      rw [hparse] at hnone
      cases hnone

/-- A text that is read is an address, and its parts are kept, the domain in small letters. -/
theorem isAddress_of_parse {s : String} {e : Email} (h : parse s = .ok e) :
    ∃ localPart domain, IsAddress (trim s.toList) localPart domain ∧
      e.localPart = String.ofList localPart ∧ e.domain = String.ofList (domain.map lowerAscii) := by
  obtain ⟨localPart, domain, hsplit, hlocal, hdomain, hkept, hsmall⟩ := parts_of_parse h
  have hfault := faultOf_parse s
  rw [h] at hfault
  have hnone := firstFault?_eq_none_iff.mp hfault.symm
  refine ⟨localPart, domain, ⟨hsplit, ?_, ?_, hlocal, hdomain, ?_, ?_, ?_⟩, hkept, hsmall⟩
  · intro hnil
    have hstart := hnone .emptyLocalPart
    rw [Violates, hsplit, head?_parts hlocal] at hstart
    exact hstart hnil
  · intro hnil
    have hend := hnone .emptyDomain
    rw [Violates, hsplit, getLast?_parts hdomain] at hend
    exact hend hnil
  · intro c hc
    exact Bool.eq_false_iff.mpr fun hblank => hnone .containsWhitespace ⟨c, hc, hblank⟩
  · rw [← byteLength_eq]
    exact byteLength_pos (hnone .empty)
  · exact Nat.le_of_not_lt (hnone .tooLong)

/-- An address that was read is still one, with its own parts. -/
theorem isAddress_text (e : Email) :
    IsAddress e.text.toList e.localPart.toList e.domain.toList where
  eq := e.toList_text
  localPart_ne_nil := e.wellFormed.localPart_ne_nil
  domain_ne_nil := e.wellFormed.domain_ne_nil
  localPart_free h := (isPlain_iff.mp (e.wellFormed.localPart_plain '@' h)).2 rfl
  domain_free h := (isPlain_iff.mp (e.wellFormed.domain_plain '@' h)).2 rfl
  plain _ := isBlank_of_mem_text
  one_le := by
    rw [← byteLength_eq, e.toList_text]
    exact byteLength_pos (List.append_ne_nil_of_right_ne_nil _ (List.cons_ne_nil _ _))
  le_max := by
    rw [← byteLength_eq, e.toList_text]
    exact e.wellFormed.byteLength_le

/-- **Just the addresses are read, and what is no address is refused for its first fault.**  Blanks
around a text do not count.  Of an address that is read the part in front of the at sign is kept
as it is, and the part behind it in small letters of ASCII; what is kept is an address again.  So
two texts are the same address if they agree in front of the at sign and, up to the case of ASCII
letters, behind it. -/
theorem addresses_are_read_exactly (s : String) :
    (∀ t, IsCore s.toList t ↔ t = trim s.toList) ∧
    ((∃ e, parse s = .ok e) ↔ ∃ localPart domain, IsAddress (trim s.toList) localPart domain) ∧
    (∀ e, parse s = .ok e → ∃ localPart domain, IsAddress (trim s.toList) localPart domain ∧
      e.text.toList = localPart ++ '@' :: domain.map lowerAscii ∧
      e.localPart.toList = localPart ∧ e.domain.toList = domain.map lowerAscii ∧
      IsAddress e.text.toList e.localPart.toList e.domain.toList) ∧
    (∀ fault, parse s = .error fault ↔ firstFault? (trim s.toList) = some fault) ∧
    ∀ other a b, parse s = .ok a → parse other = .ok b → (a = b ↔ SameAddress s other) := by
  refine ⟨fun t => isCore_iff, ?_, ?_, ?_, fun _ _ _ => parse_eq_iff⟩
  · constructor
    · rintro ⟨e, he⟩
      obtain ⟨localPart, domain, haddress, -⟩ := isAddress_of_parse he
      exact ⟨localPart, domain, haddress⟩
    · rintro ⟨localPart, domain, haddress⟩
      exact parse_of_isAddress haddress
  · intro e he
    obtain ⟨localPart, domain, haddress, hlocal, hdomain⟩ := isAddress_of_parse he
    have hlocal : e.localPart.toList = localPart := by rw [hlocal, String.toList_ofList]
    have hdomain : e.domain.toList = domain.map lowerAscii := by rw [hdomain, String.toList_ofList]
    have htext := e.toList_text
    rw [hlocal, hdomain] at htext
    exact ⟨localPart, domain, haddress, htext, hlocal, hdomain, isAddress_text e⟩
  · intro fault
    rw [← faultOf_parse, faultOf_eq_some]

/-- One address in two spellings, and a text with four faults. -/
theorem alice_spelled_twice :
    (∃ a b, parse " Alice@Example.COM" = .ok a ∧ parse "Alice@eXample.com\n" = .ok b ∧ a = b) ∧
      parse "@ @" = .error .containsWhitespace := by
  have hread : ∀ (s : String) (localPart domain : List Char),
      IsAddress (trim s.toList) localPart domain → ∃ e, parse s = .ok e :=
    fun s localPart domain h => (addresses_are_read_exactly s).2.1.mpr ⟨localPart, domain, h⟩
  obtain ⟨a, ha⟩ := hread " Alice@Example.COM" "Alice".toList "Example.COM".toList
    (by decide +kernel)
  obtain ⟨b, hb⟩ := hread "Alice@eXample.com\n" "Alice".toList "eXample.com".toList
    (by decide +kernel)
  refine ⟨⟨a, b, ha, hb, ?_⟩, ?_⟩
  · refine ((addresses_are_read_exactly _).2.2.2.2 _ a b ha hb).mpr
      ⟨"Alice".toList, "Example.COM".toList, "eXample.com".toList, ?_, ?_, ?_⟩ <;> decide +kernel
  · refine ((addresses_are_read_exactly "@ @").2.2.2.1 _).mpr ?_
    decide +kernel

end Email

end OrderDesk
