/-
E-mail addresses.

An address is a local part and a domain with one at sign between them, without
blanks, and at most 254 bytes long.  It is kept in one form: blanks around it are
gone and the ASCII letters of the domain are small, so two spellings of one address
are the same value.  The local part is kept as given.

The form is part of the type, so every `Email` is an address that could be read
back; `Email.parse` is the only way to get one from a text, and it reports the first
thing wrong with the text, in the order in which its tests stand.
-/
import OrderDesk.Text.Ascii
import OrderDesk.Text.Blank

namespace OrderDesk

open OrderDesk.Text

/-- What can be wrong with an address. -/
inductive EmailError where
  | empty
  | tooLong
  | missingAtSymbol
  | multipleAtSymbols
  | containsWhitespace
  | emptyLocalPart
  | emptyDomain
  deriving DecidableEq, Repr

/-- The text that reports the fault. -/
def EmailError.message : EmailError → String
  | .empty => "email cannot be empty"
  | .tooLong => "email must be at most 254 characters"
  | .missingAtSymbol => "email must contain an @ symbol"
  | .multipleAtSymbols => "email must contain exactly one @ symbol"
  | .containsWhitespace => "email cannot contain whitespace"
  | .emptyLocalPart => "email local part cannot be empty"
  | .emptyDomain => "email domain cannot be empty"

namespace Email

/-- An address has at most this many bytes. -/
def maxLength : Nat := 254

/-- The number of bytes of a text. -/
def byteLength (cs : List Char) : Nat := cs.foldr (fun c n => c.utf8Size + n) 0

/-- A character that may stand in either part. -/
def isPlain (c : Char) : Bool := !isBlank c && c != '@'

/-- The two parts together are an address in its one form. -/
structure WellFormed (localPart domain : List Char) : Prop where
  localPart_ne_nil : localPart ≠ []
  domain_ne_nil : domain ≠ []
  localPart_plain : ∀ c ∈ localPart, isPlain c = true
  domain_plain : ∀ c ∈ domain, isPlain c = true
  /-- No capital ASCII letter is left in the domain. -/
  domain_lower : ∀ c ∈ domain, lowerAscii c = c
  byteLength_le : byteLength (localPart ++ '@' :: domain) ≤ maxLength

end Email

/-- An e-mail address in its one form. -/
structure Email where
  localPart : String
  domain : String
  wellFormed : Email.WellFormed localPart.toList domain.toList
  deriving DecidableEq

namespace Email

/-- The address as text. -/
def text (e : Email) : String := e.localPart ++ "@" ++ e.domain

/-- A character that may stand in either part is neither a blank nor the at sign. -/
theorem isPlain_iff {c : Char} : isPlain c = true ↔ isBlank c = false ∧ c ≠ '@' := by
  simp [isPlain]

/-! ### Making the domain's letters small -/

theorem isPlain_lowerAscii {c : Char} (h : isPlain c = true) : isPlain (lowerAscii c) = true := by
  by_cases hc : 'A' ≤ c ∧ c ≤ 'Z'
  · have hb := capital_bounds hc
    have hn := toNat_lowerAscii c
    rw [if_pos hc] at hn
    have hat : lowerAscii c ≠ '@' := fun he => by
      have : (lowerAscii c).toNat = 64 := by rw [he]; rfl
      omega
    simp only [isPlain, isBlank, blankRanges, List.any_cons, List.any_nil, hn, hat,
      Bool.and_eq_true, Bool.not_eq_true', Bool.or_false, Bool.or_eq_false_iff,
      Bool.and_eq_false_iff, decide_eq_false_iff_not, bne_iff_ne, ne_eq, not_false_eq_true,
      and_true]
    omega
  · simpa [lowerAscii, hc] using h

/-! ### Reading -/

/-- The two sides of the first at sign of a trimmed text form an address once the tests of
`parse` have passed and the domain's letters are small. -/
theorem wellFormed_of_cut {text localPart domain : List Char}
    (hcut : cutAt (· == '@') text = some (localPart, domain))
    (hlen : ¬maxLength < byteLength text) (hblank : ¬text.any isBlank = true)
    (hat : '@' ∉ domain) (hlocal : localPart ≠ []) (hdomain : domain ≠ []) :
    WellFormed (String.ofList localPart).toList
      (String.ofList (domain.map lowerAscii)).toList := by
  obtain ⟨c, hc, rfl, ha⟩ := cutAt_eq hcut
  have hc : c = '@' := by simpa using hc
  subst hc
  simp only [List.any_append, List.any_cons, Bool.or_eq_true, List.any_eq_true, not_or,
    not_exists, not_and] at hblank
  simp only [String.toList_ofList]
  refine ⟨hlocal, by simpa using hdomain, ?_, ?_, ?_, ?_⟩
  · intro c hc
    have hfree : c ≠ '@' := beq_eq_false_iff_ne.mp (ha c hc)
    exact isPlain_iff.mpr ⟨Bool.eq_false_iff.mpr (hblank.1 c hc), hfree⟩
  · intro c hc
    obtain ⟨d, hd, rfl⟩ := List.mem_map.1 hc
    apply isPlain_lowerAscii
    have hfree : d ≠ '@' := fun h => hat (h ▸ hd)
    exact isPlain_iff.mpr ⟨Bool.eq_false_iff.mpr (hblank.2.2 d hd), hfree⟩
  · intro c hc
    obtain ⟨d, _, rfl⟩ := List.mem_map.1 hc
    exact lowerAscii_idem d
  · simp only [byteLength, List.foldr_append, List.foldr_cons, List.foldr_map,
      utf8Size_lowerAscii] at hlen ⊢
    exact Nat.le_of_not_lt hlen

/-- Read an address from a text.  Blanks around it do not count. -/
def parse (s : String) : Except EmailError Email :=
  let text := trim s.toList
  if text = [] then .error .empty
  else if hlen : maxLength < byteLength text then .error .tooLong
  else if hblank : text.any isBlank then .error .containsWhitespace
  else match hcut : cutAt (· == '@') text with
    | none => .error .missingAtSymbol
    | some (localPart, domain) =>
      if hat : '@' ∈ domain then .error .multipleAtSymbols
      else if hlocal : localPart = [] then .error .emptyLocalPart
      else if hdomain : domain = [] then .error .emptyDomain
      else .ok
        { localPart := String.ofList localPart
          domain := String.ofList (domain.map lowerAscii)
          wellFormed := wellFormed_of_cut hcut hlen hblank hat hlocal hdomain }

end Email

end OrderDesk
