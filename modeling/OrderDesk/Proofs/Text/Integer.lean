/-
Which texts are integers.

A numeral is a row of digits, perhaps with a sign in front.  Its value is the sum of its digits,
each times its power of ten, and says nothing about the order in which the digits are read; there
may be any number of zeros in front.  A text is read as an integer of a range exactly when it is
a numeral and its value lies in the range.

The reader goes from left to right and stops as soon as the value leaves the range.  This makes
no difference to what is accepted, because the value of more digits is never smaller.
-/
import Mathlib.Data.Nat.Digits.Defs
import OrderDesk.Identifier
import OrderDesk.Proofs.Text.Numeral

namespace OrderDesk.Text

/-! ### Numerals -/

/-- The number that a row of digits stands for. -/
def valueOf (ds : List Char) : Nat := Nat.ofDigits 10 (ds.map digitValue).reverse

/-- One or more decimal digits. -/
structure IsDigits (ds : List Char) : Prop where
  ne_nil : ds ≠ []
  digits : ∀ d ∈ ds, isDigit d = true

/-- A numeral with its value.  A minus sign is allowed only in front of `signed` numerals. -/
inductive IsNumeral (signed : Prop) : List Char → Int → Prop
  | plain {ds : List Char} (h : IsDigits ds) : IsNumeral signed ds (valueOf ds)
  | plus {ds : List Char} (h : IsDigits ds) : IsNumeral signed ('+' :: ds) (valueOf ds)
  | minus {ds : List Char} (hsigned : signed) (h : IsDigits ds) :
      IsNumeral signed ('-' :: ds) (-valueOf ds)

theorem valueOf_snoc (ds : List Char) (d : Char) :
    valueOf (ds ++ [d]) = valueOf ds * 10 + digitValue d := by
  simp only [valueOf, List.map_append, List.map_cons, List.map_nil, List.reverse_append,
    List.reverse_cons, List.reverse_nil, List.nil_append, List.singleton_append,
    Nat.ofDigits_cons]
  omega

/-- More digits never make a smaller number. -/
theorem valueOf_le_append (ds es : List Char) : valueOf ds ≤ valueOf (ds ++ es) := by
  induction es generalizing ds with
  | nil => rw [List.append_nil]
  | cons e rest ih =>
      have hmore := ih (ds ++ [e])
      rw [valueOf_snoc, List.append_assoc, List.singleton_append] at hmore
      omega

/-! ### Reading digits -/

/-- Downwards, digits are read as they are read upwards, with the other sign. -/
theorem readDownTo_eq (limit value : Int) (cs : List Char) :
    readDownTo limit value cs =
      match readUpTo (-limit) (-value) cs with
      | .ok n => .ok (-n)
      | .error .tooLarge => .error .tooSmall
      | .error e => .error e := by
  induction cs generalizing value with
  | nil => simp only [readDownTo, readUpTo, neg_neg]
  | cons c rest ih =>
      have hnext : -(value * 10 - digitValue c) = -value * 10 + digitValue c := by omega
      have hlimit : limit ≤ value * 10 - digitValue c ↔
          -value * 10 + digitValue c ≤ -limit := by omega
      rw [readDownTo, readUpTo]
      by_cases hc : isDigit c = true
      · rw [if_pos hc, if_pos hc]
        dsimp only
        by_cases hle : -value * 10 + digitValue c ≤ -limit
        · rw [if_pos hle, if_pos (hlimit.mpr hle), ih, hnext]
        · rw [if_neg hle, if_neg fun h => hle (hlimit.mp h)]
      · rw [if_neg hc, if_neg hc]

/-- After some digits, the rest is read exactly when it consists of digits and all of them
together stay below the limit. -/
theorem readUpTo_eq_ok_iff {limit : Int} {done : List Char} (hdone : (valueOf done : Int) ≤ limit)
    {cs : List Char} {n : Int} :
    readUpTo limit (valueOf done) cs = .ok n ↔
      (∀ c ∈ cs, isDigit c = true) ∧ n = valueOf (done ++ cs) ∧ n ≤ limit := by
  induction cs generalizing done with
  | nil =>
      rw [readUpTo, List.append_nil, Except.ok.injEq]
      constructor
      · rintro rfl
        exact ⟨by simp, rfl, hdone⟩
      · rintro ⟨-, rfl, -⟩
        rfl
  | cons c rest ih =>
      have hnext : (valueOf done : Int) * 10 + digitValue c = (valueOf (done ++ [c]) : Nat) := by
        rw [valueOf_snoc]
        omega
      have hall : done ++ c :: rest = done ++ [c] ++ rest := by simp
      rw [readUpTo, hnext, hall]
      by_cases hc : isDigit c = true
      · by_cases hle : ((valueOf (done ++ [c]) : Nat) : Int) ≤ limit
        · rw [if_pos hc, if_pos hle, ih hle, List.forall_mem_cons]
          simp only [hc, true_and]
        · -- what is too large already does not become smaller
          have hmore := valueOf_le_append (done ++ [c]) rest
          rw [if_pos hc, if_neg hle]
          simp only [reduceCtorEq, false_iff]
          rintro ⟨-, rfl, hn⟩
          omega
      · rw [if_neg hc]
        simp only [reduceCtorEq, false_iff]
        exact fun h => hc (h.1 c (List.mem_cons_self ..))

theorem readUpTo_zero_iff {limit : Int} (hlimit : 0 ≤ limit) {cs : List Char} {n : Int} :
    readUpTo limit 0 cs = .ok n ↔
      (∀ c ∈ cs, isDigit c = true) ∧ n = valueOf cs ∧ n ≤ limit :=
  @readUpTo_eq_ok_iff limit [] hlimit cs n

theorem readDownTo_zero_iff {limit : Int} (hlimit : limit ≤ 0) {cs : List Char} {n : Int} :
    readDownTo limit 0 cs = .ok n ↔
      (∀ c ∈ cs, isDigit c = true) ∧ n = -valueOf cs ∧ limit ≤ n := by
  have hup := @readUpTo_zero_iff (-limit) (by omega) cs (-n)
  have hflip : readDownTo limit 0 cs = .ok n ↔ readUpTo (-limit) 0 cs = .ok (-n) := by
    rw [readDownTo_eq, neg_zero]
    split
    · next m hm => rw [hm, Except.ok.injEq, Except.ok.injEq, neg_eq_iff_eq_neg]
    · next hm => simp [hm]
    · next e _ hm => simp [hm]
  rw [hflip, hup]
  constructor
  · rintro ⟨hdigits, hn, hle⟩
    exact ⟨hdigits, by omega, by omega⟩
  · rintro ⟨hdigits, hn, hle⟩
    exact ⟨hdigits, by omega, by omega⟩

/-! ### Reading numerals -/

section Numeral

variable {signed : Prop} {cs ds : List Char} {n : Int}

/-- What does not begin with a sign is a numeral if it is a row of digits. -/
theorem isNumeral_iff_of_head {c : Char} (hplus : c ≠ '+') (hminus : c ≠ '-') :
    IsNumeral signed (c :: ds) n ↔ IsDigits (c :: ds) ∧ n = valueOf (c :: ds) := by
  constructor
  · intro h
    cases h with
    | plain h => exact ⟨h, rfl⟩
    | plus h => exact absurd rfl hplus
    | minus hsigned h => exact absurd rfl hminus
  · rintro ⟨h, rfl⟩
    exact .plain h

theorem isNumeral_plus_iff :
    IsNumeral signed ('+' :: ds) n ↔ IsDigits ds ∧ n = valueOf ds := by
  constructor
  · intro h
    cases h with
    | plain h => exact absurd (h.digits '+' (List.mem_cons_self ..)) (by decide)
    | plus h => exact ⟨h, rfl⟩
  · rintro ⟨h, rfl⟩
    exact .plus h

theorem isNumeral_minus_iff :
    IsNumeral signed ('-' :: ds) n ↔ signed ∧ IsDigits ds ∧ n = -valueOf ds := by
  constructor
  · intro h
    cases h with
    | plain h => exact absurd (h.digits '-' (List.mem_cons_self ..)) (by decide)
    | minus hsigned h => exact ⟨hsigned, h, rfl⟩
  · rintro ⟨hsigned, h, rfl⟩
    exact .minus hsigned h

theorem isDigits_cons_iff {d : Char} :
    IsDigits (d :: ds) ↔ ∀ c ∈ d :: ds, isDigit c = true :=
  ⟨IsDigits.digits, fun h => ⟨List.cons_ne_nil _ _, h⟩⟩

theorem not_isDigits_nil : ¬IsDigits [] := fun h => h.ne_nil rfl

/-- **Exactly the numerals of a range are read.** -/
theorem readNumeral_eq_ok_iff {range : IntRange} (hrange : range.low ≤ 0 ∧ 0 ≤ range.high) :
    readNumeral range cs = .ok n ↔
      IsNumeral (range.low < 0) cs n ∧ range.low ≤ n ∧ n ≤ range.high := by
  obtain ⟨hlow, hhigh⟩ := hrange
  -- the value of a numeral without a minus sign is no less than zero
  have hbounds : ∀ {m : Nat}, n = m → (range.low ≤ n ∧ n ≤ range.high ↔ n ≤ range.high) := by
    intro m hm
    constructor
    · exact And.right
    · intro h
      exact ⟨by omega, h⟩
  have hplain : ∀ {c : Char} {ds : List Char}, c ≠ '+' → c ≠ '-' →
      (readUpTo range.high 0 (c :: ds) = .ok n ↔
        IsNumeral (range.low < 0) (c :: ds) n ∧ range.low ≤ n ∧ n ≤ range.high) := by
    intro c ds hplus hminus
    rw [readUpTo_zero_iff hhigh, isNumeral_iff_of_head hplus hminus, isDigits_cons_iff, and_assoc]
    exact and_congr_right fun _ => and_congr_right fun hn => (hbounds hn).symm
  match cs with
  | [] =>
      simp only [readNumeral, reduceCtorEq, false_iff]
      rintro ⟨h, -⟩
      cases h with
      | plain h => exact not_isDigits_nil h
  | [c] =>
      rw [readNumeral]
      by_cases hplus : c = '+'
      · subst hplus
        simp [isNumeral_plus_iff, not_isDigits_nil]
      by_cases hminus : c = '-'
      · subst hminus
        simp [isNumeral_minus_iff, not_isDigits_nil]
      rw [if_neg (not_or.mpr ⟨hplus, hminus⟩), hplain hplus hminus]
  | c :: d :: rest =>
      rw [readNumeral]
      by_cases hplus : c = '+'
      · subst hplus
        rw [if_pos rfl, readUpTo_zero_iff hhigh, isNumeral_plus_iff, isDigits_cons_iff, and_assoc]
        exact and_congr_right fun _ => and_congr_right fun hn => (hbounds hn).symm
      rw [if_neg hplus]
      by_cases hminus : c = '-'
      · subst hminus
        rw [isNumeral_minus_iff, isDigits_cons_iff]
        by_cases hneg : range.low < 0
        · rw [if_pos ⟨rfl, hneg⟩, readDownTo_zero_iff hlow, and_assoc, and_assoc]
          simp only [hneg, true_and]
          refine and_congr_right fun _ => and_congr_right fun hn => ?_
          exact ⟨fun h => ⟨h, by omega⟩, And.left⟩
        · rw [if_neg fun h => hneg h.2, readUpTo_zero_iff hhigh]
          simp only [hneg, false_and, iff_false]
          exact fun h => absurd (h.1 '-' (List.mem_cons_self ..)) (by decide)
      rw [if_neg fun h => hminus h.1, hplain hplus hminus]

/-- There is a zero without a sign. -/
theorem zero_mem_unsigned (bits : Nat) :
    (IntRange.unsigned bits).low ≤ 0 ∧ 0 ≤ (IntRange.unsigned bits).high := by
  have hbits : 0 < 2 ^ bits := Nat.two_pow_pos bits
  simp only [IntRange.unsigned, Nat.pow_eq]
  omega

/-- Without a sign, the range is that of the bits. -/
theorem readNumeral_unsigned_eq_ok_iff {bits : Nat} :
    readNumeral (.unsigned bits) cs = .ok n ↔ IsNumeral False cs n ∧ 0 ≤ n ∧ n < 2 ^ bits := by
  have hread := @readNumeral_eq_ok_iff cs n (.unsigned bits) (zero_mem_unsigned bits)
  simp only [IntRange.unsigned, Nat.pow_eq, lt_irrefl] at hread
  have hhigh : n ≤ (2 ^ bits : Nat) - 1 ↔ n < 2 ^ bits := by
    rw [Int.le_sub_one_iff, Nat.cast_pow, Nat.cast_ofNat]
  rw [IntRange.unsigned, Nat.pow_eq, hread, hhigh]

end Numeral

end OrderDesk.Text

namespace OrderDesk

open OrderDesk.Text

/-! ### Identifiers -/

/-- A text is read as a thirty-two bit number exactly when it is the numeral of that number, with
blanks around it or without. -/
theorem parseInt32_eq_ok_iff {s : String} {n : Int32} :
    parseInt32 s = .ok n ↔ IsNumeral True (trim s.toList) n.toInt := by
  have hread := @readNumeral_eq_ok_iff (trim s.toList) n.toInt .signed32 ⟨by decide, by decide⟩
  have hsigned : (IntRange.signed32.low < 0) = True := eq_true (by decide)
  rw [hsigned, and_iff_left (toInt_mem_signed32 n)] at hread
  rw [← hread, parseInt32]
  cases h : readNumeral .signed32 (trim s.toList) with
  | error e => simp [Except.map]
  | ok m =>
      have hm := (@readNumeral_eq_ok_iff _ _ .signed32 ⟨by decide, by decide⟩).mp h
      have htoInt : (Int32.ofInt m).toInt = m :=
        Int32.toInt_ofInt_of_le hm.2.1 (Int.lt_add_one_of_le hm.2.2)
      simp only [Except.map, Except.ok.injEq]
      constructor
      · rintro rfl
        exact htoInt.symm
      · rintro rfl
        exact Int32.ofInt_toInt n

theorem OrderId.parse_eq_ok_iff {s : String} {id : OrderId} :
    OrderId.parse s = .ok id ↔ IsNumeral True (trim s.toList) id.value.toInt := by
  rw [← parseInt32_eq_ok_iff, OrderId.parse]
  cases parseInt32 s with
  | error e => simp [Except.map]
  | ok n =>
      cases id
      simp [Except.map]

end OrderDesk
