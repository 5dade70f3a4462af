/-
What a random identifier looks like.

Its digits stand in five groups, with hyphens between them:

    xxxxxxxx-xxxx-4xxx-yxxx-xxxxxxxxxxxx

Here `x` is any hexadecimal digit, with a small letter if it has one, and `y` is one of the four
digits that begin with the bits of the mark.  No random bit is lost on the way but the six that
are marked over: two identifiers are the same only if all others are.
-/
import Mathlib.Data.Bool.AllAny
import Mathlib.Data.List.Forall2
import OrderDesk.Text.Uuid

namespace OrderDesk.Text.Uuid

/-- The characters that a character of the template stands for. -/
def standsFor : Char → List Char
  | 'x' => "0123456789abcdef".toList
  | 'y' => "89ab".toList
  | c => [c]

/-- The template of a random identifier. -/
def template : String := "xxxxxxxx-xxxx-4xxx-yxxx-xxxxxxxxxxxx"

/-- A character of a text stands in its place of the template. -/
def Stands (c place : Char) : Prop := c ∈ standsFor place

instance (c place : Char) : Decidable (Stands c place) :=
  inferInstanceAs (Decidable (c ∈ standsFor place))

/-- The text has the form of a random identifier. -/
def IsRandom (id : String) : Prop := List.Forall₂ Stands id.toList template.toList

/-- Each character stands in some place. -/
theorem exists_place {cs places : List Char} (h : List.Forall₂ Stands cs places) {c : Char}
    (hc : c ∈ cs) : ∃ place ∈ places, Stands c place := by
  induction h with
  | nil => exact absurd hc List.not_mem_nil
  | @cons _ place _ _ hfirst _ ih =>
      rcases List.mem_cons.mp hc with rfl | hc
      · exact ⟨place, List.mem_cons_self, hfirst⟩
      · obtain ⟨p, hp, hstands⟩ := ih hc
        exact ⟨p, List.mem_cons_of_mem _ hp, hstands⟩

/-! ### Digits -/

theorem stands_hexDigit {n : Nat} (h : n < 16) : Stands (hexDigit n) 'x' := by
  have hall : ∀ m < 16, Stands (hexDigit m) 'x' := by decide
  exact hall n h

theorem hexDigit_injective {m n : Nat} (hm : m < 16) (hn : n < 16)
    (h : hexDigit m = hexDigit n) : m = n := by
  have hall : ∀ m < 16, ∀ n < 16, hexDigit m = hexDigit n → m = n := by decide
  exact hall m hm n hn h

theorem ne_hyphen_of_stands {c : Char} (h : Stands c 'x') : c ≠ '-' := by
  have hall : ∀ d ∈ standsFor 'x', d ≠ '-' := List.all_iff_forall_prop.mp (by decide)
  exact hall c h

theorem toList_hexText_nil : (hexText []).toList = [] := by
  rw [hexText, String.toList_ofList]
  rfl

theorem toList_hexText_cons (b : UInt8) (bytes : List UInt8) :
    (hexText (b :: bytes)).toList =
      hexDigit (b.toNat / 16) :: hexDigit (b.toNat % 16) :: (hexText bytes).toList := by
  rw [hexText, hexText, String.toList_ofList, String.toList_ofList]
  rfl

theorem halves_lt (b : UInt8) : b.toNat / 16 < 16 ∧ b.toNat % 16 < 16 := by
  have hb := b.toNat_lt
  omega

theorem stands_of_mem_hexText {bytes : List UInt8} {c : Char} (h : c ∈ (hexText bytes).toList) :
    Stands c 'x' := by
  induction bytes with
  | nil => simp [toList_hexText_nil] at h
  | cons b rest ih =>
      obtain ⟨hhigh, hlow⟩ := halves_lt b
      rw [toList_hexText_cons] at h
      rcases List.mem_cons.mp h with rfl | h
      · exact stands_hexDigit hhigh
      rcases List.mem_cons.mp h with rfl | h
      · exact stands_hexDigit hlow
      · exact ih h

theorem length_hexText (bytes : List UInt8) :
    (hexText bytes).toList.length = 2 * bytes.length := by
  induction bytes with
  | nil => rw [toList_hexText_nil]; rfl
  | cons b rest ih =>
      rw [toList_hexText_cons, List.length_cons, List.length_cons, ih, List.length_cons]
      omega

/-- Every byte begins with its high half. -/
theorem getElem?_hexText (bytes : List UInt8) (i : Nat) :
    (hexText bytes).toList[2 * i]? = bytes[i]?.map fun b => hexDigit (b.toNat / 16) := by
  induction bytes generalizing i with
  | nil => rw [toList_hexText_nil]; rfl
  | cons b rest ih =>
      rw [toList_hexText_cons]
      cases i with
      | zero => rfl
      | succ i =>
          rw [Nat.mul_succ, List.getElem?_cons_succ, List.getElem?_cons_succ,
            List.getElem?_cons_succ, ih]

/-- Different bytes have different digits. -/
theorem hexText_injective {bytes bytes' : List UInt8}
    (h : (hexText bytes).toList = (hexText bytes').toList) : bytes = bytes' := by
  induction bytes generalizing bytes' with
  | nil =>
      cases bytes' with
      | nil => rfl
      | cons b' rest' =>
          rw [toList_hexText_nil, toList_hexText_cons] at h
          cases h
  | cons b rest ih =>
      cases bytes' with
      | nil =>
          rw [toList_hexText_nil, toList_hexText_cons] at h
          cases h
      | cons b' rest' =>
          rw [toList_hexText_cons, toList_hexText_cons] at h
          obtain ⟨hhigh, h⟩ := List.cons.inj h
          obtain ⟨hlow, hrest⟩ := List.cons.inj h
          have hdiv := hexDigit_injective (halves_lt b).1 (halves_lt b').1 hhigh
          have hmod := hexDigit_injective (halves_lt b).2 (halves_lt b').2 hlow
          have hb : b = b' := UInt8.toNat_inj.mp (by omega)
          rw [hb, ih hrest]

/-! ### Groups -/

/-- The bytes of an identifier, with its marks. -/
def marked (random : Vector UInt8 16) : List UInt8 := (random.mapIdx mark).toList

/-- The digits of an identifier. -/
def digits (random : Vector UInt8 16) : List Char := (hexText (marked random)).toList

theorem length_marked (random : Vector UInt8 16) : (marked random).length = 16 :=
  Vector.length_toList

theorem length_digits (random : Vector UInt8 16) : (digits random).length = 32 := by
  rw [digits, length_hexText, length_marked]

theorem stands_of_mem_digits {random : Vector UInt8 16} {c : Char} (h : c ∈ digits random) :
    Stands c 'x' :=
  stands_of_mem_hexText h

/-- Some of the digits, one after another. -/
def group (random : Vector UInt8 16) (start length : Nat) : List Char :=
  ((digits random).drop start).take length

theorem toList_ofRandom (random : Vector UInt8 16) :
    (ofRandom random).toList =
      group random 0 8 ++ '-' :: (group random 8 4 ++ '-' :: (group random 12 4 ++
        '-' :: (group random 16 4 ++ '-' :: group random 20 12))) := by
  simp only [ofRandom, String.toList_intercalate, List.map_cons, List.map_nil,
    String.toList_ofList, List.intercalate, List.intersperse, List.flatten]
  simp [group, digits, marked]

theorem stands_of_mem_group {random : Vector UInt8 16} {start length : Nat} {c : Char}
    (h : c ∈ group random start length) : Stands c 'x' :=
  stands_of_mem_digits (List.mem_of_mem_drop (List.mem_of_mem_take h))

theorem length_group {random : Vector UInt8 16} {start length : Nat}
    (h : start + length ≤ 32) : (group random start length).length = length := by
  rw [group, List.length_take, List.length_drop, length_digits]
  omega

theorem group_eq_cons {random : Vector UInt8 16} {start length : Nat} {c : Char}
    (h : (digits random)[start]? = some c) :
    group random start (length + 1) = c :: group random (start + 1) length := by
  obtain ⟨hstart, rfl⟩ := List.getElem?_eq_some_iff.mp h
  rw [group, List.drop_eq_getElem_cons hstart, List.take_succ_cons, group]

/-- Two groups that follow one another are one. -/
theorem group_append (random : Vector UInt8 16) (start m n : Nat) :
    group random start m ++ group random (start + m) n = group random start (m + n) := by
  rw [group, group, group, List.take_add, List.drop_drop]

/-! ### The form -/

/-- A row of digits has the form of a row of places for any digit. -/
theorem forall₂_replicate {cs : List Char} (h : ∀ c ∈ cs, Stands c 'x') :
    List.Forall₂ Stands cs (List.replicate cs.length 'x') := by
  induction cs with
  | nil => exact .nil
  | cons c rest ih =>
      obtain ⟨hc, hrest⟩ := List.forall_mem_cons.mp h
      exact .cons hc (ih hrest)

theorem forall₂_group (random : Vector UInt8 16) {start length : Nat} (h : start + length ≤ 32) :
    List.Forall₂ Stands (group random start length) (List.replicate length 'x') := by
  have hgroup := @forall₂_replicate (group random start length) fun _ => stands_of_mem_group
  rwa [length_group h] at hgroup

theorem getElem?_marked (random : Vector UInt8 16) {i : Nat} (h : i < 16) :
    (marked random)[i]? = some (mark i random[i]) := by
  simp [marked, h]

theorem getElem?_digits (random : Vector UInt8 16) {i : Nat} (h : i < 16) :
    (digits random)[2 * i]? = some (hexDigit ((mark i random[i]).toNat / 16)) := by
  rw [digits, getElem?_hexText, getElem?_marked random h]
  rfl

/-- The digit that says how the identifier was made. -/
theorem version_digit (b : UInt8) : hexDigit ((mark 6 b).toNat / 16) = '4' := by
  have hall : ∀ n < 256, hexDigit ((mark 6 (UInt8.ofNat n)).toNat / 16) = '4' := by
    decide +kernel
  have hb := hall b.toNat b.toNat_lt
  rwa [UInt8.ofNat_toNat] at hb

/-- The digit that says what the other digits mean. -/
theorem stands_variant_digit (b : UInt8) : Stands (hexDigit ((mark 8 b).toNat / 16)) 'y' := by
  have hall : ∀ n < 256, Stands (hexDigit ((mark 8 (UInt8.ofNat n)).toNat / 16)) 'y' := by
    decide +kernel
  have hb := hall b.toNat b.toNat_lt
  rwa [UInt8.ofNat_toNat] at hb

/-- **What is made from random bytes has the form of a random identifier.** -/
theorem isRandom_ofRandom (random : Vector UInt8 16) : IsRandom (ofRandom random) := by
  have htemplate : template.toList =
      List.replicate 8 'x' ++ '-' :: (List.replicate 4 'x' ++ '-' :: ('4' :: List.replicate 3 'x' ++
        '-' :: ('y' :: List.replicate 3 'x' ++ '-' :: List.replicate 12 'x'))) := by decide
  have hyphen : Stands '-' '-' := by decide
  have hthird : List.Forall₂ Stands (group random 12 4) ('4' :: List.replicate 3 'x') := by
    rw [group_eq_cons (getElem?_digits random (show 6 < 16 by decide)), version_digit]
    exact .cons (by decide) (forall₂_group random (by decide))
  have hfourth : List.Forall₂ Stands (group random 16 4) ('y' :: List.replicate 3 'x') := by
    rw [group_eq_cons (getElem?_digits random (show 8 < 16 by decide))]
    exact .cons (stands_variant_digit _) (forall₂_group random (by decide))
  rw [IsRandom, toList_ofRandom, htemplate]
  refine List.rel_append (forall₂_group random (by decide)) (.cons hyphen ?_)
  refine List.rel_append (forall₂_group random (by decide)) (.cons hyphen ?_)
  refine List.rel_append hthird (.cons hyphen ?_)
  exact List.rel_append hfourth (.cons hyphen (forall₂_group random (by decide)))

/-! ### What is random about it -/

theorem filter_group (random : Vector UInt8 16) (start length : Nat) :
    (group random start length).filter (· ≠ '-') = group random start length := by
  rw [List.filter_eq_self]
  exact fun c hc => decide_eq_true (ne_hyphen_of_stands (stands_of_mem_group hc))

/-- The digits of an identifier are its characters but for the hyphens. -/
theorem filter_ofRandom (random : Vector UInt8 16) :
    (ofRandom random).toList.filter (· ≠ '-') = digits random := by
  have hall : group random 0 32 = digits random := by
    rw [group, List.drop_zero, List.take_of_length_le (Nat.le_of_eq (length_digits random))]
  have hhyphen : ∀ cs : List Char, ('-' :: cs).filter (· ≠ '-') = cs.filter (· ≠ '-') := by
    intro cs
    rfl
  simp only [toList_ofRandom, List.filter_append, hhyphen, filter_group]
  rw [group_append random 16, group_append random 12, group_append random 8,
    group_append random 0, hall]

/-- **No random bit is lost but those that are marked over.** -/
theorem ofRandom_eq_iff {random random' : Vector UInt8 16} :
    ofRandom random = ofRandom random' ↔
      ∀ (i : Nat) (h : i < 16), mark i random[i] = mark i random'[i] := by
  constructor
  · intro hid i h
    have hdigits : digits random = digits random' := by
      rw [← filter_ofRandom, ← filter_ofRandom, hid]
    have hmarked := congrArg (·[i]?) (hexText_injective hdigits)
    simp only [getElem?_marked _ h] at hmarked
    exact Option.some.inj hmarked
  · intro hmark
    have hmarked : random.mapIdx mark = random'.mapIdx mark := by
      ext i h
      simp [hmark i h]
    rw [ofRandom, ofRandom, hmarked]

end OrderDesk.Text.Uuid
