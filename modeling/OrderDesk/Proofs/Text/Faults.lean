/-
What a text is refused for that is no integer.

A text has a sign or none, and behind it as many digits as there are.  These digits alone decide
whether the text is out of range: the value of more digits is never smaller, so it does not matter
how many there are, nor what follows them.

    2147483648x      too large: the digits are
    214748364x       no digit, but where there should be one
    -2147483648      the smallest integer of thirty-two bits
    -                no digit

Every text comes to one thing and no other, and `Reads` says to which, without saying how the
digits are counted up.
-/
import OrderDesk.Proofs.Text.Integer

namespace OrderDesk.Text

/-! ### Signs and what follows them -/

/-- What follows the sign of a text, and whether the sign is a minus.  A minus is a sign only in
front of `signed` numerals, and a text that begins with no sign follows the one it does not have. -/
inductive Behind (signed : Prop) : List Char → Bool → List Char → Prop
  | plus (rest : List Char) : Behind signed ('+' :: rest) false rest
  | minus (hsigned : signed) (rest : List Char) : Behind signed ('-' :: rest) true rest
  | none {cs : List Char} (hplus : cs.head? ≠ some '+') (hminus : signed → cs.head? ≠ some '-') :
      Behind signed cs false cs

/-- The digits behind the sign, as many as there are, stand for a number beyond the range. -/
def TooLarge (range : IntRange) (cs : List Char) : Prop :=
  ∃ rest, Behind (range.low < 0) cs false rest ∧
    range.high < valueOf (rest.takeWhile isDigit)

/-- The digits behind a minus, as many as there are, stand for a number below the range. -/
def TooSmall (range : IntRange) (cs : List Char) : Prop :=
  ∃ rest, Behind (range.low < 0) cs true rest ∧
    -(valueOf (rest.takeWhile isDigit) : Int) < range.low

/-- The text is a numeral of an integer in the range. -/
def IsInteger (range : IntRange) (cs : List Char) (n : Int) : Prop :=
  IsNumeral (range.low < 0) cs n ∧ range.low ≤ n ∧ n ≤ range.high

/-- What a text comes to that should be an integer of the range. -/
inductive Reads (range : IntRange) (cs : List Char) : Except NumeralError Int → Prop
  | integer {n : Int} (h : IsInteger range cs n) : Reads range cs (.ok n)
  | empty (h : cs = []) : Reads range cs (.error .empty)
  | tooLarge (h : TooLarge range cs) : Reads range cs (.error .tooLarge)
  | tooSmall (h : TooSmall range cs) : Reads range cs (.error .tooSmall)
  | invalidDigit (hempty : cs ≠ []) (hinteger : ∀ n, ¬IsInteger range cs n)
      (hlarge : ¬TooLarge range cs) (hsmall : ¬TooSmall range cs) :
      Reads range cs (.error .invalidDigit)

section Behind

variable {signed : Prop} {cs rest rest' : List Char} {negative negative' : Bool}

theorem exists_behind (signed : Prop) (cs : List Char) :
    ∃ negative rest, Behind signed cs negative rest := by
  by_cases hplus : cs.head? = some '+'
  · obtain ⟨rest, rfl⟩ := List.head?_eq_some_iff.mp hplus
    exact ⟨_, _, .plus rest⟩
  by_cases hminus : signed ∧ cs.head? = some '-'
  · obtain ⟨hsigned, hminus⟩ := hminus
    obtain ⟨rest, rfl⟩ := List.head?_eq_some_iff.mp hminus
    exact ⟨_, _, .minus hsigned rest⟩
  · exact ⟨_, _, .none hplus fun hsigned h => hminus ⟨hsigned, h⟩⟩

/-- A text has one sign. -/
theorem Behind.unique (h : Behind signed cs negative rest) (h' : Behind signed cs negative' rest') :
    negative = negative' ∧ rest = rest' := by
  cases h with
  | plus rest =>
      cases h' with
      | plus _ => exact ⟨rfl, rfl⟩
      | none hplus _ => exact absurd rfl hplus
  | minus hsigned rest =>
      cases h' with
      | minus _ _ => exact ⟨rfl, rfl⟩
      | none _ hminus => exact absurd rfl (hminus hsigned)
  | none hplus hminus =>
      cases h' with
      | plus _ => exact absurd rfl hplus
      | minus hsigned _ => exact absurd rfl (hminus hsigned)
      | none _ _ => exact ⟨rfl, rfl⟩

/-- What is said of some sign and what follows it is said of the sign that there is. -/
theorem Behind.exists_iff (h : Behind signed cs negative rest) {P : List Char → Prop} :
    (∃ rest', Behind signed cs negative' rest' ∧ P rest') ↔ negative = negative' ∧ P rest := by
  constructor
  · rintro ⟨rest', hbehind, hP⟩
    obtain ⟨rfl, rfl⟩ := h.unique hbehind
    exact ⟨rfl, hP⟩
  · rintro ⟨rfl, hP⟩
    exact ⟨rest, h, hP⟩

end Behind

/-! ### Digits out of range -/

/-- After some digits, the rest is too much exactly if all digits together are. -/
theorem readUpTo_eq_tooLarge_iff {limit : Int} {done : List Char}
    (hdone : (valueOf done : Int) ≤ limit) {cs : List Char} :
    readUpTo limit (valueOf done) cs = .error .tooLarge ↔
      limit < valueOf (done ++ cs.takeWhile isDigit) := by
  induction cs generalizing done with
  | nil =>
      rw [readUpTo, List.takeWhile_nil, List.append_nil]
      exact iff_of_false (by simp) (by omega)
  | cons c rest ih =>
      have hnext : (valueOf done : Int) * 10 + digitValue c = (valueOf (done ++ [c]) : Nat) := by
        rw [valueOf_snoc]
        omega
      rw [readUpTo, hnext]
      by_cases hc : isDigit c = true
      · have hall : done ++ (c :: rest).takeWhile isDigit =
            done ++ [c] ++ rest.takeWhile isDigit := by
          rw [List.takeWhile_cons_of_pos hc, List.append_assoc, List.singleton_append]
        rw [if_pos hc, hall]
        by_cases hle : ((valueOf (done ++ [c]) : Nat) : Int) ≤ limit
        · rw [if_pos hle, ih hle]
        · -- the digits that are still to come make the value no smaller
          have hmore := valueOf_le_append (done ++ [c]) (rest.takeWhile isDigit)
          rw [if_neg hle]
          exact iff_of_true rfl (by omega)
      · rw [if_neg hc, List.takeWhile_cons_of_neg hc, List.append_nil]
        exact iff_of_false (by simp) (by omega)

theorem readUpTo_zero_eq_tooLarge_iff {limit : Int} (hlimit : 0 ≤ limit) {cs : List Char} :
    readUpTo limit 0 cs = .error .tooLarge ↔ limit < valueOf (cs.takeWhile isDigit) :=
  @readUpTo_eq_tooLarge_iff limit [] hlimit cs

/-- Upwards, nothing else can be wrong but a character that is no digit. -/
theorem fault_of_readUpTo {limit value : Int} {cs : List Char} {e : NumeralError}
    (h : readUpTo limit value cs = .error e) : e = .tooLarge ∨ e = .invalidDigit := by
  induction cs generalizing value with
  | nil => cases h
  | cons c rest ih =>
      rw [readUpTo] at h
      split at h
      · dsimp only at h
        split at h
        · exact ih h
        · exact .inl (Except.error.inj h).symm
      · exact .inr (Except.error.inj h).symm

theorem readDownTo_zero_eq_tooSmall_iff {limit : Int} (hlimit : limit ≤ 0) {cs : List Char} :
    readDownTo limit 0 cs = .error .tooSmall ↔
      -(valueOf (cs.takeWhile isDigit) : Int) < limit := by
  have hup := @readUpTo_zero_eq_tooLarge_iff (-limit) (by omega) cs
  have hlimit : -limit < (valueOf (cs.takeWhile isDigit) : Int) ↔
      -(valueOf (cs.takeWhile isDigit) : Int) < limit := by omega
  rw [readDownTo_eq, neg_zero, ← hlimit, ← hup]
  cases hread : readUpTo (-limit) 0 cs with
  | ok n => simp
  | error e => obtain rfl | rfl := fault_of_readUpTo hread <;> simp

/-- Downwards, nothing else can be wrong but a character that is no digit. -/
theorem fault_of_readDownTo {limit : Int} {cs : List Char} {e : NumeralError}
    (h : readDownTo limit 0 cs = .error e) : e = .tooSmall ∨ e = .invalidDigit := by
  rw [readDownTo_eq] at h
  cases hread : readUpTo (-limit) (-0) cs with
  | ok n =>
      rw [hread] at h
      cases h
  | error e' =>
      rw [hread] at h
      obtain rfl | rfl := fault_of_readUpTo hread
      · exact .inl (Except.error.inj h).symm
      · exact .inr (Except.error.inj h).symm

/-! ### Texts -/

section Text

variable {range : IntRange} {cs rest : List Char} {negative : Bool} {n : Int}

/-- What is read of a text is what is read of the digits behind its sign. -/
theorem readNumeral_of_behind (h : Behind (range.low < 0) cs negative rest) (hne : rest ≠ []) :
    readNumeral range cs =
      if negative then readDownTo range.low 0 rest else readUpTo range.high 0 rest := by
  obtain ⟨d, ds, hrest⟩ := List.exists_cons_of_ne_nil hne
  cases h with
  | plus rest =>
      subst hrest
      rfl
  | minus hsigned rest =>
      subst hrest
      rw [readNumeral, if_neg (by decide), if_pos ⟨rfl, hsigned⟩]
      rfl
  | none hplus hminus =>
      subst hrest
      have hnotPlus : d ≠ '+' := fun hd => hplus (by rw [hd]; rfl)
      have hnotMinus : ¬(d = '-' ∧ range.low < 0) :=
        fun h => hminus h.2 (by rw [h.1]; rfl)
      cases ds with
      | cons e es =>
          rw [readNumeral, if_neg hnotPlus, if_neg hnotMinus]
          rfl
      | nil =>
          rw [readNumeral]
          by_cases hd : d = '-'
          · -- a minus that is no sign is no digit either
            subst hd
            rfl
          · rw [if_neg (not_or.mpr ⟨hnotPlus, hd⟩)]
            rfl

/-- A sign alone is no numeral. -/
theorem readNumeral_of_bare (h : Behind (range.low < 0) cs negative []) (hne : cs ≠ []) :
    readNumeral range cs = .error .invalidDigit := by
  cases h with
  | plus _ => rfl
  | minus _ _ => rfl
  | none _ _ => exact absurd rfl hne

theorem readNumeral_eq_empty_iff : readNumeral range cs = .error .empty ↔ cs = [] := by
  refine ⟨?_, fun h => by rw [h]; rfl⟩
  intro h
  by_contra hne
  obtain ⟨negative, rest, hbehind⟩ := exists_behind (range.low < 0) cs
  by_cases hrest : rest = []
  · rw [hrest] at hbehind
    rw [readNumeral_of_bare hbehind hne] at h
    cases h
  rw [readNumeral_of_behind hbehind hrest] at h
  cases negative with
  | false => obtain h | h := fault_of_readUpTo h <;> cases h
  | true => obtain h | h := fault_of_readDownTo h <;> cases h

theorem valueOf_nil : valueOf ([].takeWhile isDigit) = 0 := rfl

/-- Where nothing follows a sign, nothing is out of range. -/
theorem readNumeral_of_nothing (h : Behind (range.low < 0) cs negative []) :
    readNumeral range cs ≠ .error .tooLarge ∧ readNumeral range cs ≠ .error .tooSmall := by
  by_cases hcs : cs = []
  · rw [hcs]
    exact ⟨by simp [readNumeral], by simp [readNumeral]⟩
  · rw [readNumeral_of_bare h hcs]
    exact ⟨by simp, by simp⟩

/-- **A text is too large if the digits behind its sign are.** -/
theorem readNumeral_eq_tooLarge_iff (hhigh : 0 ≤ range.high) :
    readNumeral range cs = .error .tooLarge ↔ TooLarge range cs := by
  obtain ⟨negative, rest, hbehind⟩ := exists_behind (range.low < 0) cs
  rw [TooLarge, hbehind.exists_iff]
  by_cases hrest : rest = []
  · subst hrest
    rw [valueOf_nil]
    exact iff_of_false (readNumeral_of_nothing hbehind).1 (by omega)
  rw [readNumeral_of_behind hbehind hrest]
  cases negative with
  | false =>
      rw [if_neg Bool.false_ne_true, readUpTo_zero_eq_tooLarge_iff hhigh]
      simp
  | true =>
      rw [if_pos rfl]
      refine iff_of_false ?_ (by simp)
      intro h
      obtain h | h := fault_of_readDownTo h <;> cases h

/-- **A text is too small if the digits behind its minus are.** -/
theorem readNumeral_eq_tooSmall_iff (hlow : range.low ≤ 0) :
    readNumeral range cs = .error .tooSmall ↔ TooSmall range cs := by
  obtain ⟨negative, rest, hbehind⟩ := exists_behind (range.low < 0) cs
  rw [TooSmall, hbehind.exists_iff]
  by_cases hrest : rest = []
  · subst hrest
    rw [valueOf_nil]
    refine iff_of_false (readNumeral_of_nothing hbehind).2 ?_
    rintro ⟨-, hsmall⟩
    omega
  rw [readNumeral_of_behind hbehind hrest]
  cases negative with
  | false =>
      rw [if_neg Bool.false_ne_true]
      refine iff_of_false ?_ (by simp)
      intro h
      obtain h | h := fault_of_readUpTo h <;> cases h
  | true =>
      rw [if_pos rfl, readDownTo_zero_eq_tooSmall_iff hlow]
      simp

/-- **A text is read as what it comes to.** -/
theorem readNumeral_iff (hrange : range.low ≤ 0 ∧ 0 ≤ range.high)
    {reading : Except NumeralError Int} :
    readNumeral range cs = reading ↔ Reads range cs reading := by
  obtain ⟨hlow, hhigh⟩ := hrange
  have hinteger : ∀ n, readNumeral range cs = .ok n ↔ IsInteger range cs n := fun n =>
    readNumeral_eq_ok_iff ⟨hlow, hhigh⟩
  have hempty := @readNumeral_eq_empty_iff range cs
  have hlarge := @readNumeral_eq_tooLarge_iff range cs hhigh
  have hsmall := @readNumeral_eq_tooSmall_iff range cs hlow
  constructor
  · rintro rfl
    cases hread : readNumeral range cs with
    | ok n => exact .integer ((hinteger n).mp hread)
    | error e =>
        cases e with
        | empty => exact .empty (hempty.mp hread)
        | tooLarge => exact .tooLarge (hlarge.mp hread)
        | tooSmall => exact .tooSmall (hsmall.mp hread)
        | invalidDigit =>
            rw [hread] at hinteger hempty hlarge hsmall
            refine .invalidDigit ?_ ?_ ?_ ?_
            · exact fun h => nomatch hempty.mpr h
            · exact fun n h => nomatch (hinteger n).mpr h
            · exact fun h => nomatch hlarge.mpr h
            · exact fun h => nomatch hsmall.mpr h
  · intro h
    cases h with
    | integer h => exact (hinteger _).mpr h
    | empty h => exact hempty.mpr h
    | tooLarge h => exact hlarge.mpr h
    | tooSmall h => exact hsmall.mpr h
    | invalidDigit hne hnone hnotLarge hnotSmall =>
        cases hread : readNumeral range cs with
        | ok n => exact absurd ((hinteger n).mp hread) (hnone n)
        | error e =>
            cases e with
            | empty => exact absurd (hempty.mp hread) hne
            | tooLarge => exact absurd (hlarge.mp hread) hnotLarge
            | tooSmall => exact absurd (hsmall.mp hread) hnotSmall
            | invalidDigit => rfl

end Text

end OrderDesk.Text

namespace OrderDesk

open OrderDesk.Text

/-! ### Identifiers -/

/-- A number of thirty-two bits is read as it is, for what is read from its numeral fits. -/
theorem toInt_parseInt32 (s : String) :
    (parseInt32 s).map Int32.toInt = readNumeral .signed32 (trim s.toList) := by
  rw [parseInt32]
  cases h : readNumeral .signed32 (trim s.toList) with
  | error e => rfl
  | ok n =>
      obtain ⟨-, hlow, hhigh⟩ := (readNumeral_eq_ok_iff ⟨by decide, by decide⟩).mp h
      exact congrArg Except.ok (Int32.toInt_ofInt_of_le hlow (Int.lt_add_one_of_le hhigh))

theorem parseInt32_iff {s : String} {reading : Except NumeralError Int} :
    (parseInt32 s).map Int32.toInt = reading ↔ Reads .signed32 (trim s.toList) reading := by
  rw [toInt_parseInt32, readNumeral_iff ⟨by decide, by decide⟩]

/-- The number of a user is read as what the text comes to, without the blanks around it. -/
theorem UserId.parse_iff {s : String} {reading : Except NumeralError Int} :
    (UserId.parse s).map (fun id => id.value.toInt) = reading ↔
      Reads .signed32 (trim s.toList) reading := by
  rw [← parseInt32_iff, UserId.parse]
  cases parseInt32 s <;> rfl

/-- The number of an order is read as what the text comes to, without the blanks around it. -/
theorem OrderId.parse_iff {s : String} {reading : Except NumeralError Int} :
    (OrderId.parse s).map (fun id => id.value.toInt) = reading ↔
      Reads .signed32 (trim s.toList) reading := by
  rw [← parseInt32_iff, OrderId.parse]
  cases parseInt32 s <;> rfl

end OrderDesk
