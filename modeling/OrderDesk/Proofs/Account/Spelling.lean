/-
Which texts name the same thing.

A name or an address can be given with blanks around it, and the domain of an address in
any case.  Two texts that are read as names are the same name exactly when they are the
same text without those blanks.  Two texts that are read as addresses are the same address
exactly when they agree in front of the at sign and, up to the case of ASCII letters,
behind it.  Neither statement mentions how the form that is kept is made.

The form that is kept is itself one of these texts: a name or an address that is written out is
read as what it was.
-/
import Mathlib.Data.List.Basic
import OrderDesk.Account.Email
import OrderDesk.Account.Username
import OrderDesk.Proofs.Text.Blank

namespace OrderDesk

open OrderDesk.Text

/-! ### Cuts -/

/-- A text is cut at the first place where it can be cut. -/
theorem cutAt_append {α : Type} {p : α → Bool} {before behind : List α} {c : α}
    (hbefore : ∀ x ∈ before, p x = false) (hc : p c = true) :
    cutAt p (before ++ c :: behind) = some (before, behind) := by
  induction before with
  | nil => rw [List.nil_append, cutAt, if_pos hc]
  | cons x rest ih =>
      obtain ⟨hx, hrest⟩ := List.forall_mem_cons.mp hbefore
      rw [List.cons_append, cutAt, if_neg (Bool.eq_false_iff.mp hx), ih hrest]
      rfl

/-- A text that cannot be cut has no place for it. -/
theorem cutAt_eq_none {α : Type} {p : α → Bool} {cs : List α} (h : cutAt p cs = none) :
    ∀ c ∈ cs, p c = false := by
  induction cs with
  | nil => simp
  | cons c rest ih =>
      rw [cutAt] at h
      split at h
      · cases h
      next hc =>
      exact List.forall_mem_cons.mpr ⟨Bool.eq_false_iff.mpr hc, ih (Option.map_eq_none_iff.mp h)⟩

/-! ### Names -/

namespace Username

/-- The name that was read is the text without the blanks around it. -/
theorem text_of_parse {s : String} {name : Username} (h : parse s = .ok name) :
    name.text = trimmed s := by
  unfold parse at h
  dsimp only at h
  split at h
  · cases h
  split at h
  · cases h
  split at h
  · cases h
  split at h
  · cases h
  cases h
  rfl

/-- Blanks around a text make no difference to what is read. -/
theorem parse_congr {s t : String} (h : trimmed s = trimmed t) : parse s = parse t := by
  have htrim : trim s.toList = trim t.toList := by
    have hchars := congrArg String.toList h
    rwa [trimmed, trimmed, String.toList_ofList, String.toList_ofList] at hchars
  unfold parse
  dsimp only
  generalize trim s.toList = name at htrim ⊢
  subst htrim
  rfl

theorem eq_of_text {a b : Username} (h : a.text = b.text) : a = b := by
  cases a
  cases b
  simpa using h

/-- Two texts that are read as names are the same name if they are the same without blanks. -/
theorem parse_eq_iff {s t : String} {a b : Username} (ha : parse s = .ok a)
    (hb : parse t = .ok b) : a = b ↔ trimmed s = trimmed t := by
  rw [← text_of_parse ha, ← text_of_parse hb]
  exact ⟨congrArg Username.text, eq_of_text⟩

/-- No character of a name is a blank. -/
theorem isBlank_of_isAllowed {c : Char} (h : isAllowed c = true) : isBlank c = false := by
  have hbounds := isAllowed_bounds h
  exact isBlank_of_bounds ⟨by omega, by omega⟩

/-- **A name that is written out is read as what it was.** -/
theorem parse_text (name : Username) : parse name.text = .ok name := by
  have htrim : trim name.text.toList = name.text.toList :=
    trim_of_plain fun c hc => isBlank_of_isAllowed (name.wellFormed.allowed c hc)
  have hsize : (String.ofList name.text.toList).utf8ByteSize = name.text.toList.length :=
    utf8ByteSize_of_allowed name.wellFormed.allowed
  have hmin : minLength ≤ name.text.toList.length := name.wellFormed.minLength_le
  have hmax : name.text.toList.length ≤ maxLength := name.wellFormed.le_maxLength
  unfold parse
  dsimp only
  generalize trim name.text.toList = cs at htrim
  subst htrim
  split
  · next hnil =>
    rw [hnil] at hmin
    cases hmin
  split
  · next bad hbad =>
    have hforeign := List.find?_some hbad
    rw [name.wellFormed.allowed bad (List.mem_of_find?_eq_some hbad)] at hforeign
    cases hforeign
  split
  · next hshort => exact absurd (hsize ▸ hmin) (Nat.not_le_of_lt hshort)
  split
  · next hlong => exact absurd (hsize ▸ hmax) (Nat.not_le_of_lt hlong)
  · exact congrArg Except.ok (eq_of_text String.ofList_toList)

end Username

/-! ### Addresses -/

/-- Two texts spell the same address: without the blanks around them they have an at sign with
the same text in front of it, and behind it texts that differ in nothing but the case of ASCII
letters. -/
def SameAddress (s t : String) : Prop :=
  ∃ localPart domain domain', trim s.toList = localPart ++ '@' :: domain ∧
    trim t.toList = localPart ++ '@' :: domain' ∧ equalIgnoringCase domain domain' = true

namespace Email

/-- What is known about a text that was read as an address. -/
theorem parts_of_parse {s : String} {e : Email} (h : parse s = .ok e) :
    ∃ localPart domain, trim s.toList = localPart ++ '@' :: domain ∧ '@' ∉ localPart ∧
      '@' ∉ domain ∧ e.localPart = String.ofList localPart ∧
      e.domain = String.ofList (domain.map lowerAscii) := by
  unfold parse at h
  dsimp only at h
  split at h
  · cases h
  split at h
  · cases h
  split at h
  · cases h
  split at h
  · cases h
  next localPart domain hcut =>
  split at h
  · cases h
  next hat =>
  split at h
  · cases h
  split at h
  · cases h
  cases h
  obtain ⟨c, hc, htext, hbefore⟩ := cutAt_eq hcut
  obtain rfl : c = '@' := beq_iff_eq.mp hc
  refine ⟨localPart, domain, htext, ?_, hat, rfl, rfl⟩
  intro hmem
  exact absurd (hbefore '@' hmem) (by decide)

/-- Two texts that are read as addresses are the same address if they spell the same one. -/
theorem parse_eq_iff {s t : String} {a b : Email} (ha : parse s = .ok a) (hb : parse t = .ok b) :
    a = b ↔ SameAddress s t := by
  obtain ⟨l, d, hs, hl, hd, hal, had⟩ := parts_of_parse ha
  obtain ⟨l', d', ht, hl', hd', hbl, hbd⟩ := parts_of_parse hb
  constructor
  · rintro rfl
    have hlocal : l = l' := String.ofList_injective (hal.symm.trans hbl)
    have hdomain : d.map lowerAscii = d'.map lowerAscii :=
      String.ofList_injective (had.symm.trans hbd)
    subst hlocal
    exact ⟨l, d, d', hs, ht, beq_iff_eq.mpr hdomain⟩
  · rintro ⟨k, e, e', hs', ht', he⟩
    -- each text has one at sign only, so both are cut at it
    obtain ⟨rfl, -, rfl⟩ := (List.append_cons_inj_of_notMem hl hd).mp (hs.symm.trans hs')
    obtain ⟨rfl, -, rfl⟩ := (List.append_cons_inj_of_notMem hl' hd').mp (ht.symm.trans ht')
    cases a
    cases b
    simp only at hal had hbl hbd
    rw [Email.mk.injEq, hal, had, hbl, hbd]
    exact ⟨rfl, congrArg String.ofList (beq_iff_eq.mp he)⟩

/-- The characters of an address are those of its parts, with an at sign between them. -/
theorem toList_text (e : Email) : e.text.toList = e.localPart.toList ++ '@' :: e.domain.toList := by
  rw [text, String.toList_append, String.toList_append, List.append_assoc]
  rfl

/-- No character of an address is a blank. -/
theorem isBlank_of_mem_text {e : Email} {c : Char} (h : c ∈ e.text.toList) : isBlank c = false := by
  rw [toList_text] at h
  rcases List.mem_append.mp h with hc | hc
  · exact (isPlain_iff.mp (e.wellFormed.localPart_plain c hc)).1
  rcases List.mem_cons.mp hc with rfl | hc
  · decide
  · exact (isPlain_iff.mp (e.wellFormed.domain_plain c hc)).1

/-- **An address that is written out is read as what it was.**  Its domain has no capital letters
left that could be made small. -/
theorem parse_text (e : Email) : parse e.text = .ok e := by
  have hchars := e.toList_text
  have hblank : ∀ c ∈ e.text.toList, isBlank c = false := fun _ => isBlank_of_mem_text
  have hcut : cutAt (· == '@') e.text.toList = some (e.localPart.toList, e.domain.toList) := by
    rw [hchars]
    refine cutAt_append ?_ (beq_self_eq_true '@')
    intro c hc
    exact beq_eq_false_iff_ne.mpr (isPlain_iff.mp (e.wellFormed.localPart_plain c hc)).2
  have hlower : e.domain.toList.map lowerAscii = e.domain.toList :=
    (List.map_congr_left e.wellFormed.domain_lower).trans (List.map_id _)
  have hlength := e.wellFormed.byteLength_le
  rw [← hchars] at hlength
  have htrim := trim_of_plain hblank
  unfold parse
  dsimp only
  generalize trim e.text.toList = cs at htrim
  subst htrim
  split
  · next hnil =>
    rw [hnil] at hchars
    exact absurd hchars.symm (List.append_ne_nil_of_right_ne_nil _ (List.cons_ne_nil _ _))
  split
  · next hlong => exact absurd hlength (Nat.not_le_of_lt hlong)
  split
  · next hany =>
    obtain ⟨c, hc, hblankc⟩ := List.any_eq_true.mp hany
    rw [hblank c hc] at hblankc
    cases hblankc
  split
  · next hnone =>
    rw [hcut] at hnone
    cases hnone
  next localPart domain hsome =>
  rw [hcut] at hsome
  cases hsome
  split
  · next hat =>
    exact absurd rfl (isPlain_iff.mp (e.wellFormed.domain_plain '@' hat)).2
  split
  · next hnil => exact absurd hnil e.wellFormed.localPart_ne_nil
  split
  · next hnil => exact absurd hnil e.wellFormed.domain_ne_nil
  · simp only [hlower, String.ofList_toList]

end Email

end OrderDesk
