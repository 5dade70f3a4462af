/-
Reading what was written as JSON.

A text that was written is cut into lexemes again.  Only a number does not know where it
ends until something else comes, so what can be said of a written value is where it leaves
the reader: between lexemes, or at the end of a number, and whatever separates values
makes no difference between the two.  That is `Settled`, and it is what one value needs to
know of the one before.
-/
import Mathlib.Tactic.IntervalCases
import OrderDesk.Json.Writer
import OrderDesk.Proofs.Json.Records
import OrderDesk.Proofs.Text.Numeral

namespace OrderDesk.Json

open OrderDesk.Text
open OrderDesk.Json.Number (digitsValue)

/-! ### Where a value leaves the reader -/

/-- A character that may stand behind a value. -/
def IsSeparator (c : Char) : Prop := c = ',' ∨ c = '\x7d' ∨ c = ']'

/-- These lexemes have been read, as far as a separator or the end of the text can tell. -/
def Settled (state : Place × List Lexeme) (done : List Lexeme) : Prop :=
  finish state = done ∧ ∀ c, IsSeparator c → step state (some c) = begin (some c) done

/-- The characters are read as these lexemes. -/
def IsLexed (cs : List Char) (ls : List Lexeme) : Prop :=
  ∀ done, Settled ((cs.map some).foldl step (.between, done)) (ls.reverse ++ done)

theorem settled_between (done : List Lexeme) : Settled (.between, done) done :=
  ⟨rfl, fun _ _ => rfl⟩

theorem lexemes_of_isLexed {cs : List Char} {ls : List Lexeme} (h : IsLexed cs ls) :
    lexemes (cs.map some) = ls := by
  rw [lexemes, (h []).1]
  simp

/-! ### Strings -/

/-- A string as far as it has been read, when nothing is wrong with it. -/
def partOf (cs : List Char) : StringPart := ⟨some cs, none⟩

theorem hexValue?_hexDigit {n : Nat} (h : n < 16) : hexValue? (hexDigit n) = some n := by
  have hall : ∀ m < 16, hexValue? (hexDigit m) = some m := by decide
  exact hall n h

/-- A character of a string is read as itself, however it was written. -/
theorem foldl_escapedChar (c : Char) (cs : List Char) (done : List Lexeme) :
    ((escapedChar c).map some).foldl step (.string (partOf cs), done) =
      (.string (partOf (c :: cs)), done) := by
  unfold escapedChar
  split
  · next h => subst h; rfl
  split
  · next h => subst h; rfl
  split
  · next h => subst h; rfl
  split
  · next h => subst h; rfl
  split
  · next h => subst h; rfl
  split
  · next h => subst h; rfl
  split
  · next h => subst h; rfl
  split
  · next h =>
    have hsmall : c.toNat < 32 := h
    have h1 := hexValue?_hexDigit (show c.toNat / 16 < 16 by omega)
    have h2 := hexValue?_hexDigit (show c.toNat % 16 < 16 by omega)
    have hzero : hexValue? '0' = some 0 := by decide
    have hsame : c.toNat / 16 * 16 + c.toNat % 16 = c.toNat := Nat.div_add_mod' c.toNat 16
    have hunit : (partOf cs).pushUnit c.toNat = partOf (c :: cs) := by
      have hhigh : ¬0xD800 ≤ c.toNat := by omega
      have hlow : ¬0xDC00 ≤ c.toNat := by omega
      simp [partOf, StringPart.pushUnit, hhigh, hlow]
    simp [step, h1, h2, hzero, hsame, hunit]
  · next hquote hslash _ _ _ _ _ hcontrol =>
    simp [step, hquote, hslash, hcontrol]
    rfl

/-- A string is read as the text it was written for. -/
theorem foldl_writeText (s : String) (done : List Lexeme) :
    ((writeText s).toList.map some).foldl step (.between, done) =
      (.between, .text (some s) :: done) := by
  have hchars : ∀ (cs read : List Char),
      ((cs.flatMap escapedChar).map some).foldl step (.string (partOf read), done) =
        (.string (partOf (cs.reverse ++ read)), done) := by
    intro cs
    induction cs with
    | nil => exact fun read => rfl
    | cons c rest ih =>
        intro read
        rw [List.flatMap_cons, List.map_append, List.foldl_append, foldl_escapedChar, ih]
        simp
  have hopen : step (.between, done) (some '"') = (.string (partOf []), done) := rfl
  have hclose : ∀ cs, step (.string (partOf cs), done) (some '"') =
      (.between, .text (some (String.ofList cs.reverse)) :: done) := fun _ => rfl
  rw [writeText, String.toList_ofList, List.cons_append, List.map_cons, List.foldl_cons, hopen,
    List.map_append, List.foldl_append, hchars, List.map_cons, List.foldl_cons, hclose]
  simp

/-! ### Integers -/

/-- The number that an integer is written as. -/
def numberOf : Int → Number
  | .ofNat n => ⟨false, natDigits n, [], none⟩
  | .negSucc n => ⟨true, natDigits (n + 1), [], none⟩

/-- More digits of a number that does not begin with a zero. -/
theorem foldl_digits {ds : List Char} (hds : ∀ d ∈ ds, isDigit d = true) (n : Number)
    (done : List Lexeme) :
    (ds.map some).foldl step (.number .whole n, done) =
      (.number .whole { n with whole := ds.reverse ++ n.whole }, done) := by
  induction ds generalizing n with
  | nil => rfl
  | cons d rest ih =>
      obtain ⟨hd, hrest⟩ := List.forall_mem_cons.mp hds
      have hstep : step (.number .whole n, done) (some d) =
          (.number .whole { n with whole := d :: n.whole }, done) := by
        simp [step, extend, hd]
      rw [List.map_cons, List.foldl_cons, hstep, ih hrest]
      simp

/-- A number that may end here is settled. -/
theorem settled_number {part : NumberPart} (hpart : part = .zero ∨ part = .whole) (n : Number)
    (done : List Lexeme) : Settled (.number part n, done) (.number n.inOrder :: done) := by
  refine ⟨?_, ?_⟩
  · rcases hpart with rfl | rfl <;> rfl
  · rintro c (rfl | rfl | rfl) <;> rcases hpart with rfl | rfl <;> rfl

/-- The part of a number that its first digit is. -/
def firstPart (d : Char) : NumberPart := if d = '0' then .zero else .whole

theorem firstPart_cases (d : Char) : firstPart d = .zero ∨ firstPart d = .whole := by
  unfold firstPart
  split
  · exact Or.inl rfl
  · exact Or.inr rfl

theorem eq_digitOf {d : Char} (hd : isDigit d = true) : ∃ n < 10, d = digitOf n := by
  have hbounds := isDigit_iff.mp hd
  refine ⟨d.toNat - 48, by omega, ?_⟩
  have hsame : 48 + (d.toNat - 48) = d.toNat := by omega
  rw [digitOf, hsame, Char.ofNat_toNat]

theorem begin_digit {d : Char} (hd : isDigit d = true) (done : List Lexeme) :
    begin (some d) done = (.number (firstPart d) ⟨false, [d], [], none⟩, done) := by
  obtain ⟨n, hn, rfl⟩ := eq_digitOf hd
  interval_cases n <;> rfl

theorem step_minus_digit {d : Char} (hd : isDigit d = true) (done : List Lexeme) :
    step (.number .minus ⟨true, [], [], none⟩, done) (some d) =
      (.number (firstPart d) ⟨true, [d], [], none⟩, done) := by
  obtain ⟨n, hn, rfl⟩ := eq_digitOf hd
  interval_cases n <;> rfl

/-- After its first digit, a number is read to its end. -/
theorem settled_natDigits {n : Nat} {d : Char} {rest : List Char} (h : natDigits n = d :: rest)
    (negative : Bool) (done : List Lexeme) :
    Settled ((rest.map some).foldl step (.number (firstPart d) ⟨negative, [d], [], none⟩, done))
      (.number ⟨negative, natDigits n, [], none⟩ :: done) := by
  obtain ⟨d', rest', heq, _, hzero⟩ := natDigits_eq_cons n
  rw [h] at heq
  cases heq
  by_cases hd : d = '0'
  · obtain ⟨_, rfl⟩ := hzero hd
    have hsettled := settled_number (firstPart_cases d) ⟨negative, [d], [], none⟩ done
    simpa [Number.inOrder, h] using hsettled
  · have hrest : ∀ c ∈ rest, isDigit c = true := by
      intro c hc
      refine isDigit_of_mem_natDigits (n := n) ?_
      rw [h]
      exact List.mem_cons_of_mem _ hc
    rw [firstPart, if_neg hd, foldl_digits hrest]
    have hsettled :=
      settled_number (Or.inr rfl) ⟨negative, rest.reverse ++ [d], [], none⟩ done
    simpa [Number.inOrder, h] using hsettled

/-- An integer is read as a number. -/
theorem isLexed_writeInt (n : Int) : IsLexed (writeInt n).toList [.number (numberOf n)] := by
  intro done
  rw [writeInt, intText, String.toList_ofList]
  cases n with
  | ofNat n =>
      obtain ⟨d, rest, heq, hd, _⟩ := natDigits_eq_cons n
      rw [intDigits, heq, List.map_cons, List.foldl_cons]
      have hstep : step (.between, done) (some d) = _ := begin_digit hd done
      rw [hstep]
      exact settled_natDigits heq false done
  | negSucc n =>
      obtain ⟨d, rest, heq, hd, _⟩ := natDigits_eq_cons (n + 1)
      have hminus : step (.between, done) (some '-') =
          (.number .minus ⟨true, [], [], none⟩, done) := rfl
      rw [intDigits, heq, List.map_cons, List.foldl_cons, hminus, List.map_cons, List.foldl_cons,
        step_minus_digit hd]
      exact settled_natDigits heq true done

theorem digitsValue_append (value : Nat) (ds es : List Char) :
    digitsValue value (ds ++ es) = digitsValue (digitsValue value ds) es :=
  List.foldl_append

/-- The digits of a number stand for it. -/
theorem digitsValue_natDigits (n : Nat) : digitsValue 0 (natDigits n) = n := by
  fun_induction natDigits n with
  | case1 n hn =>
      show 0 * 10 + digitValue (digitOf n) = n
      rw [digitValue_digitOf hn]
      omega
  | case2 n hn ih =>
      rw [digitsValue_append, ih]
      show n / 10 * 10 + digitValue (digitOf (n % 10)) = n
      rw [digitValue_digitOf (Nat.mod_lt n (by decide))]
      omega

/-- A number that was written for an integer is that integer, if it fits sixty-four bits. -/
theorem toInt?_numberOf {n : Int} (hlow : -9223372036854775808 ≤ n)
    (hhigh : n < 18446744073709551616) : (numberOf n).toInt? = some n := by
  cases n with
  | ofNat n =>
      have hlt : n < 18446744073709551616 := by
        have hcast : (n : Int) < 18446744073709551616 := hhigh
        omega
      simp [numberOf, Number.toInt?, digitsValue_natDigits, hlt]
  | negSucc n =>
      have hle : n + 1 ≤ 9223372036854775808 := by omega
      simp [numberOf, Number.toInt?, digitsValue_natDigits, hle]
      omega

/-- An integer of a range that fits sixty-four bits is read from the number that it was written
as. -/
theorem readInt_numberOf {range : IntRange} {n : Int} (hlow : -9223372036854775808 ≤ range.low)
    (hhigh : range.high < 18446744073709551616) (h : range.low ≤ n ∧ n ≤ range.high)
    (name : String) (behind : List Lexeme) :
    readInt range name ([.number (numberOf n)] ++ behind) = .ok n := by
  simp only [List.singleton_append, readInt, toInt?_numberOf (show _ ≤ n by omega) (by omega),
    if_pos h]

/-! ### Single values -/

/-- A value that is the whole text is read if its lexemes are. -/
theorem decodeValue_of_isLexed {α : Type} {read : Reader α} {text : String} {ls : List Lexeme}
    {a : α} (hlexed : IsLexed text.toList ls) (hvalue : IsValue ls) (hread : read ls = .ok a) :
    decodeValue read (ofText text) = .ok a := by
  have hlexemes : lexemes (ofText text) = ls := lexemes_of_isLexed hlexed
  have hlength : valueLength? ls = some ls.length := by
    have happend := hvalue.valueLength?_append []
    rwa [List.append_nil] at happend
  simp only [decodeValue, hlexemes, hread, hlength, List.drop_length, if_true]

/-! ### Objects -/

theorem isLexed_writeText (s : String) : IsLexed (writeText s).toList [.text (some s)] := by
  intro done
  rw [foldl_writeText]
  exact settled_between _

/-- A member is read as its name and its value. -/
theorem isLexed_member {value : String} {ls : List Lexeme} (h : IsLexed value.toList ls)
    (name : String) :
    IsLexed (writeText name ++ ":" ++ value).toList (memberLexemes (some name) ls) := by
  intro done
  have hcolon : ∀ ls, step (.between, ls) (some ':') = (.between, .colon :: ls) := fun _ => rfl
  have hvalue := h (.colon :: .text (some name) :: done)
  simpa [foldl_writeText, hcolon, memberLexemes] using hvalue

/-- Lists with commas between them are read one after another. -/
theorem isLexed_commas {parts : List (List Char × List Lexeme)}
    (h : ∀ p ∈ parts, IsLexed p.1 p.2) (hne : parts ≠ []) :
    IsLexed ([','].intercalate (parts.map Prod.fst))
      ([Lexeme.comma].intercalate (parts.map Prod.snd)) := by
  induction parts with
  | nil => exact absurd rfl hne
  | cons p others ih =>
      obtain ⟨hp, hothers⟩ := List.forall_mem_cons.mp h
      cases others with
      | nil => simpa using hp
      | cons q more =>
          intro done
          have hrest := ih hothers (by simp) (.comma :: p.2.reverse ++ done)
          have hcomma : ∀ ls, begin (some ',') ls = (.between, .comma :: ls) := fun _ => rfl
          simp only [List.map_cons, List.intercalate_cons_cons, List.map_append,
            List.foldl_append, List.foldl_cons, List.foldl_nil, List.map_nil]
          rw [(hp done).2 ',' (Or.inl rfl), hcomma]
          simpa using hrest

/-- **An object is read as its members, if each of their values is.** -/
theorem isLexed_writeObject {members : List (String × String × List Lexeme)}
    (h : ∀ m ∈ members, IsLexed m.2.1.toList m.2.2) (hne : members ≠ []) :
    IsLexed (writeObject (members.map fun m => (m.1, m.2.1))).toList
      (objectLexemes (members.map fun m => (some m.1, m.2.2))) := by
  let part (m : String × String × List Lexeme) : List Char × List Lexeme :=
    ((writeText m.1 ++ ":" ++ m.2.1).toList, memberLexemes (some m.1) m.2.2)
  have hparts : IsLexed ([','].intercalate ((members.map part).map Prod.fst))
      ([Lexeme.comma].intercalate ((members.map part).map Prod.snd)) := by
    refine isLexed_commas ?_ (by simpa using hne)
    intro p hp
    obtain ⟨m, hm, rfl⟩ := List.mem_map.mp hp
    simp only [part]
    exact isLexed_member (h m hm) m.1
  have hchars : (writeObject (members.map fun m => (m.1, m.2.1))).toList =
      '\x7b' :: [','].intercalate ((members.map part).map Prod.fst) ++ ['\x7d'] := by
    have hbraces : "\x7b".toList = ['\x7b'] ∧ "\x7d".toList = ['\x7d'] := ⟨rfl, rfl⟩
    have hcomma : ",".toList = [','] := rfl
    rw [writeObject, String.toList_append, String.toList_append, String.toList_intercalate,
      hbraces.1, hbraces.2, hcomma, List.map_map, List.map_map, List.map_map]
    simp only [part, Function.comp_def, List.cons_append, List.nil_append]
  have hlexemes : objectLexemes (members.map fun m => (some m.1, m.2.2)) =
      .openBrace :: [Lexeme.comma].intercalate ((members.map part).map Prod.snd) ++
        [.closeBrace] := by
    rw [objectLexemes, List.map_map, List.map_map]
    rfl
  intro done
  have hopen : step (.between, done) (some '\x7b') = (.between, .openBrace :: done) := rfl
  have hclose : ∀ ls, begin (some '\x7d') ls = (.between, .closeBrace :: ls) := fun _ => rfl
  rw [hchars, hlexemes]
  simp only [List.map_cons, List.cons_append, List.map_append, List.foldl_cons,
    List.foldl_append, List.foldl_nil, List.map_nil, hopen]
  rw [(hparts _).2 '\x7d' (Or.inr (Or.inl rfl)), hclose]
  simpa using settled_between _

/-- The lexemes of an object that was written. -/
theorem lexemes_writeObject {members : List (String × String × List Lexeme)}
    (h : ∀ m ∈ members, IsLexed m.2.1.toList m.2.2) (hne : members ≠ []) :
    lexemes (ofText (writeObject (members.map fun m => (m.1, m.2.1)))) =
      objectLexemes (members.map fun m => (some m.1, m.2.2)) :=
  lexemes_of_isLexed (isLexed_writeObject h hne)

/-- **A record is read from the object that was written, if its members fit and no field is
missing.** -/
theorem decodeRecord_writeObject {α : Type} {r : Record} {read : String → Reader α}
    {seen : Members α} {members : List (String × String × List Lexeme)}
    (hlexed : ∀ m ∈ members, IsLexed m.2.1.toList m.2.2) (hne : members ≠ [])
    (h : Collects r read [] (members.map fun m => (m.1, m.2.2)) seen)
    (hmissing : r.missing? seen = none) :
    decodeRecord r read (ofText (writeObject (members.map fun m => (m.1, m.2.1)))) =
      .ok seen := by
  refine decodeRecord_of_collects _ ?_ (by simpa using hne) h hmissing
  rw [lexemes_writeObject hlexed hne, List.map_map]
  rfl

end OrderDesk.Json
