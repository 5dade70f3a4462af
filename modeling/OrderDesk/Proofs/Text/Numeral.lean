/-
The digits of a number.

Digits are written most significant first, and there is no zero in front of another
digit.  Whoever reads them gets the number back, because what has been read never leaves the
range before the number itself does.
-/
import OrderDesk.Text.Numeral

namespace OrderDesk.Text

theorem digitOf_bounds {n : Nat} (h : n < 10) : (digitOf n).toNat = 48 + n :=
  toNat_ofNat (by omega)

theorem isDigit_iff {c : Char} : isDigit c = true ↔ 48 ≤ c.toNat ∧ c.toNat ≤ 57 := by
  rw [isDigit, Bool.and_eq_true, decide_eq_true_eq, decide_eq_true_eq]
  exact Iff.rfl

theorem isDigit_digitOf {n : Nat} (h : n < 10) : isDigit (digitOf n) = true := by
  have hn := digitOf_bounds h
  exact isDigit_iff.mpr ⟨by omega, by omega⟩

theorem digitValue_digitOf {n : Nat} (h : n < 10) : digitValue (digitOf n) = n := by
  rw [digitValue, digitOf_bounds h]
  omega

theorem isDigit_of_mem_natDigits {n : Nat} {c : Char} (h : c ∈ natDigits n) :
    isDigit c = true := by
  fun_induction natDigits n with
  | case1 n hn =>
      obtain rfl := List.mem_singleton.mp h
      exact isDigit_digitOf hn
  | case2 n hn ih =>
      rcases List.mem_append.mp h with h | h
      · exact ih h
      · obtain rfl := List.mem_singleton.mp h
        exact isDigit_digitOf (Nat.mod_lt n (by decide))

/-- There are digits, and if the first is a zero there is no other. -/
theorem natDigits_eq_cons (n : Nat) :
    ∃ d rest, natDigits n = d :: rest ∧ isDigit d = true ∧ (d = '0' → n = 0 ∧ rest = []) := by
  fun_induction natDigits n with
  | case1 n hn =>
      refine ⟨digitOf n, [], rfl, isDigit_digitOf hn, ?_⟩
      intro hzero
      have hvalue := digitOf_bounds hn
      rw [hzero] at hvalue
      have h48 : '0'.toNat = 48 := rfl
      exact ⟨by omega, rfl⟩
  | case2 n hn ih =>
      obtain ⟨d, rest, heq, hd, hzero⟩ := ih
      refine ⟨d, rest ++ [digitOf (n % 10)], by rw [heq]; rfl, hd, ?_⟩
      intro h
      have hsmall := (hzero h).1
      omega

/-! ### Reading what was written -/

theorem readUpTo_digit {limit : Int} {value n : Nat} (hn : n < 10)
    (h : ((value * 10 + n : Nat) : Int) ≤ limit) (rest : List Char) :
    readUpTo limit value (digitOf n :: rest) = readUpTo limit (value * 10 + n : Nat) rest := by
  have hnext : (value : Int) * 10 + (n : Nat) = ((value * 10 + n : Nat) : Int) := by
    omega
  rw [readUpTo, if_pos (isDigit_digitOf hn), digitValue_digitOf hn, hnext]
  exact if_pos h

theorem readDownTo_digit {limit : Int} {value n : Nat} (hn : n < 10)
    (h : limit ≤ -((value * 10 + n : Nat) : Int)) (rest : List Char) :
    readDownTo limit (-value) (digitOf n :: rest) =
      readDownTo limit (-((value * 10 + n : Nat) : Int)) rest := by
  have hnext : -(value : Int) * 10 - (n : Nat) = -((value * 10 + n : Nat) : Int) := by
    omega
  rw [readDownTo, if_pos (isDigit_digitOf hn), digitValue_digitOf hn, hnext]
  exact if_pos h

/-- The digits of a number are read as the number. -/
theorem readUpTo_natDigits {limit : Int} {n : Nat} (h : (n : Int) ≤ limit) (rest : List Char) :
    readUpTo limit 0 (natDigits n ++ rest) = readUpTo limit n rest := by
  fun_induction natDigits n generalizing rest with
  | case1 n hn =>
      have hread := @readUpTo_digit limit 0 n hn (by omega) rest
      rwa [Nat.zero_mul, Nat.zero_add] at hread
  | case2 n hn ih =>
      have hsame : n / 10 * 10 + n % 10 = n := Nat.div_add_mod' n 10
      rw [List.append_assoc, ih (by omega), List.singleton_append,
        readUpTo_digit (Nat.mod_lt n (by decide)) (by omega), hsame]

theorem readDownTo_natDigits {limit : Int} {n : Nat} (h : limit ≤ -(n : Int))
    (rest : List Char) :
    readDownTo limit 0 (natDigits n ++ rest) = readDownTo limit (-n) rest := by
  fun_induction natDigits n generalizing rest with
  | case1 n hn =>
      have hread := @readDownTo_digit limit 0 n hn (by omega) rest
      rwa [Nat.zero_mul, Nat.zero_add] at hread
  | case2 n hn ih =>
      have hsame : n / 10 * 10 + n % 10 = n := Nat.div_add_mod' n 10
      rw [List.append_assoc, ih (by omega), List.singleton_append,
        readDownTo_digit (Nat.mod_lt n (by decide)) (by omega), hsame]

/-- A digit is not a sign. -/
theorem ne_sign_of_isDigit {c : Char} (h : isDigit c = true) : c ≠ '+' ∧ c ≠ '-' := by
  refine ⟨?_, ?_⟩
  · rintro rfl
    exact absurd h (by decide)
  · rintro rfl
    exact absurd h (by decide)

theorem toInt_mem_signed32 (n : Int32) :
    IntRange.signed32.low ≤ n.toInt ∧ n.toInt ≤ IntRange.signed32.high := by
  have hlow := n.le_toInt
  have hhigh := n.toInt_lt
  simp only [IntRange.signed32]
  omega

/-- **A numeral of the range is read as the integer it was written for.** -/
theorem readNumeral_intDigits {range : IntRange} {n : Int} (hlow : range.low ≤ n)
    (hhigh : n ≤ range.high) : readNumeral range (intDigits n) = .ok n := by
  cases n with
  | ofNat n =>
      have hread : readUpTo range.high 0 (natDigits n) = .ok (Int.ofNat n) := by
        have hall := readUpTo_natDigits hhigh []
        rwa [List.append_nil] at hall
      obtain ⟨d, rest, heq, hd, -⟩ := natDigits_eq_cons n
      obtain ⟨hplus, hminus⟩ := ne_sign_of_isDigit hd
      rw [intDigits, heq]
      rw [heq] at hread
      cases rest with
      | nil => rw [readNumeral, if_neg (not_or.mpr ⟨hplus, hminus⟩), hread]
      | cons c rest => rw [readNumeral, if_neg hplus, if_neg (fun h => hminus h.1), hread]
  | negSucc n =>
      have hneg : -((n + 1 : Nat) : Int) = Int.negSucc n := rfl
      have hread : readDownTo range.low 0 (natDigits (n + 1)) = .ok (Int.negSucc n) := by
        have hall := readDownTo_natDigits (n := n + 1) (hneg ▸ hlow) []
        rwa [List.append_nil, hneg] at hall
      obtain ⟨d, rest, heq, -, -⟩ := natDigits_eq_cons (n + 1)
      have hbelow : range.low < 0 := by omega
      rw [heq] at hread
      rw [intDigits, heq, readNumeral, if_neg (by decide), if_pos ⟨rfl, hbelow⟩, hread]

end OrderDesk.Text
