/-
Characters and bytes of ASCII.

Several formats here compare letters without regard to case, but only the letters
A to Z; every other character, also one with a case of its own, stands for itself.
-/
namespace OrderDesk.Text

/-- A letter A to Z becomes its small letter; everything else stays. -/
def lowerAscii (c : Char) : Char :=
  if 'A' ≤ c ∧ c ≤ 'Z' then Char.ofNat (c.toNat + 32) else c

/-- A decimal digit. -/
def isDigit (c : Char) : Bool := '0' ≤ c && c ≤ '9'

/-- A letter A to Z in either case. -/
def isLetter (c : Char) : Bool := ('a' ≤ c && c ≤ 'z') || ('A' ≤ c && c ≤ 'Z')

/-- The value of a decimal digit; meaningless for other characters. -/
def digitValue (c : Char) : Nat := c.toNat - 48

/-- The value of a hexadecimal digit in either case. -/
def hexValue? (c : Char) : Option Nat :=
  if isDigit c then some (c.toNat - 48)
  else if 'a' ≤ c && c ≤ 'f' then some (c.toNat - 87)
  else if 'A' ≤ c && c ≤ 'F' then some (c.toNat - 55)
  else none

/-- The digit of a value below sixteen, in small letters. -/
def hexDigit (n : Nat) : Char := Char.ofNat (if n < 10 then 48 + n else 87 + n)

/-- Two hexadecimal digits for each byte. -/
def hexText (bytes : List UInt8) : String :=
  String.ofList (bytes.flatMap fun b => [hexDigit (b.toNat / 16), hexDigit (b.toNat % 16)])

/-- Equal up to the case of ASCII letters. -/
def equalIgnoringCase (a b : List Char) : Bool := a.map lowerAscii == b.map lowerAscii

/-- The text with its ASCII letters small. -/
def lowerAsciiText (s : String) : String := String.ofList (s.toList.map lowerAscii)

/-- Cut at the first element that satisfies `p`, which belongs to neither part. -/
def cutAt {α : Type} (p : α → Bool) : List α → Option (List α × List α)
  | [] => none
  | c :: rest => if p c then some ([], rest) else (cutAt p rest).map fun (a, b) => (c :: a, b)

/-- Put an element in front of the first piece, or begin a new piece at a separator. -/
def addToPieces {α : Type} [DecidableEq α] (sep c : α) : List (List α) → List (List α)
  | [] => [[c]]
  | piece :: pieces => if c = sep then [] :: piece :: pieces else (c :: piece) :: pieces

/-- Split at every occurrence of `sep`; there is always at least one piece. -/
def splitAll {α : Type} [DecidableEq α] (sep : α) (cs : List α) : List (List α) :=
  cs.foldr (addToPieces sep) [[]]

/-- `needle` occurs somewhere in the text. -/
def occursIn (needle : List Char) : List Char → Bool
  | [] => needle.isEmpty
  | c :: rest => needle.isPrefixOf (c :: rest) || occursIn needle rest

/-! ### What making letters small keeps -/

theorem toNat_ofNat {n : Nat} (h : n < 0xD800) : (Char.ofNat n).toNat = n := by
  have hv : n.isValidChar := Or.inl h
  rw [Char.ofNat, dif_pos hv]
  rfl

theorem capital_bounds {c : Char} (h : 'A' ≤ c ∧ c ≤ 'Z') : 65 ≤ c.toNat ∧ c.toNat ≤ 90 :=
  ⟨h.1, h.2⟩

theorem toNat_lowerAscii (c : Char) :
    (lowerAscii c).toNat = if 'A' ≤ c ∧ c ≤ 'Z' then c.toNat + 32 else c.toNat := by
  unfold lowerAscii
  split
  · next h => exact toNat_ofNat (by have := capital_bounds h; omega)
  · rfl

theorem lowerAscii_idem (c : Char) : lowerAscii (lowerAscii c) = lowerAscii c := by
  by_cases h : 'A' ≤ c ∧ c ≤ 'Z'
  · have hn := toNat_lowerAscii c
    have hb := capital_bounds h
    rw [if_pos h] at hn
    have : ¬('A' ≤ lowerAscii c ∧ lowerAscii c ≤ 'Z') := fun h2 => by
      have := capital_bounds h2
      omega
    rw [lowerAscii, if_neg this]
  · have : lowerAscii c = c := by simp [lowerAscii, h]
    rw [this, this]

theorem utf8Size_eq_one {c : Char} (h : c.toNat ≤ 127) : c.utf8Size = 1 := by
  have : c.val ≤ 0x7f := h
  simp [Char.utf8Size, this]

/-- A text of ASCII has as many bytes as characters. -/
theorem utf8ByteSize_of_ascii {cs : List Char} (h : ∀ c ∈ cs, c.toNat ≤ 127) :
    (String.ofList cs).utf8ByteSize = cs.length := by
  induction cs with
  | nil => rfl
  | cons c rest ih =>
      have hc := utf8Size_eq_one (h c List.mem_cons_self)
      have hrest := ih fun d hd => h d (List.mem_cons_of_mem c hd)
      rw [String.ofList_cons, String.utf8ByteSize_append, String.utf8ByteSize_singleton, hc, hrest,
        List.length_cons, Nat.add_comm]

theorem utf8Size_lowerAscii (c : Char) : (lowerAscii c).utf8Size = c.utf8Size := by
  by_cases h : 'A' ≤ c ∧ c ≤ 'Z'
  · have hb := capital_bounds h
    have hn := toNat_lowerAscii c
    rw [if_pos h] at hn
    rw [utf8Size_eq_one (by omega), utf8Size_eq_one (by omega)]
  · simp [lowerAscii, h]

/-! ### Cutting -/

/-- What `cutAt` finds is the first element that satisfies `p`. -/
theorem cutAt_eq {α : Type} {p : α → Bool} {cs a b : List α} (h : cutAt p cs = some (a, b)) :
    ∃ c, p c = true ∧ cs = a ++ c :: b ∧ ∀ x ∈ a, p x = false := by
  induction cs generalizing a b with
  | nil => simp [cutAt] at h
  | cons c rest ih =>
    rw [cutAt] at h
    split at h
    · next hc => cases h; exact ⟨c, hc, rfl, by simp⟩
    · next hc =>
      simp only [Option.map_eq_some_iff, Prod.exists, Prod.mk.injEq] at h
      obtain ⟨a', b', hab, rfl, rfl⟩ := h
      obtain ⟨d, hd, rfl, ha⟩ := ih hab
      exact ⟨d, hd, rfl, by simpa [hc] using ha⟩

end OrderDesk.Text
