/-
Reading what a text spells.

A text that says a tree is cut into the lexemes of the tree, however it is spelled.  So a reader,
which sees only lexemes, cannot tell two spellings of one tree apart.

The rules of the grammar put texts together, and what is carried along is `ReadsAs`: the text is
cut into these lexemes, whatever stands behind it, if no number can go on there.
-/
import OrderDesk.Proofs.Json.Gap
import OrderDesk.Proofs.Json.Tree
import OrderDesk.Proofs.Json.Written

namespace OrderDesk.Json

open OrderDesk.Text

/-! ### Strings -/

theorem not_isHalf_toNat (c : Char) : ¬IsHigh c.toNat ∧ ¬IsLow c.toNat := by
  have hvalid : c.toNat.isValidChar := c.valid
  unfold IsHigh IsLow
  rcases hvalid with h | ⟨h, _⟩ <;> omega

section Units

variable {n : Nat} {cs : List Char}

theorem pushUnit_of_whole (hhigh : ¬IsHigh n) (hlow : ¬IsLow n) :
    (partOf cs).pushUnit n = partOf (Char.ofNat n :: cs) := by
  rw [IsHigh] at hhigh
  rw [IsLow] at hlow
  simp [partOf, StringPart.pushUnit, hhigh, hlow]

theorem pushUnit_of_isHigh (h : IsHigh n) : (partOf cs).pushUnit n = ⟨some cs, some n⟩ := by
  rw [IsHigh] at h
  simp [partOf, StringPart.pushUnit, h]

theorem pushUnit_of_isLow (h : IsLow n) : (partOf cs).pushUnit n = ⟨none, none⟩ := by
  have hhigh : ¬(0xD800 ≤ n ∧ n < 0xDC00) := by
    rw [IsLow] at h
    omega
  rw [IsLow] at h
  simp [partOf, StringPart.pushUnit, h, hhigh]

theorem pushUnit_half (high : Nat) : (⟨some cs, some high⟩ : StringPart).pushUnit n =
    if IsLow n then partOf (ofHalves high n :: cs) else ⟨none, none⟩ := by
  by_cases h : IsLow n
  · rw [if_pos h]
    rw [IsLow] at h
    simp [StringPart.pushUnit, h, partOf, ofHalves]
  · rw [if_neg h]
    rw [IsLow] at h
    simp [StringPart.pushUnit, h]

end Units

/-- A character that stands for itself is added as the unit that it is. -/
theorem push_eq_pushUnit (s : StringPart) (c : Char) : s.push (some c) = s.pushUnit c.toNat := by
  obtain ⟨hhigh, hlow⟩ := not_isHalf_toNat c
  obtain ⟨chars, half⟩ := s
  cases chars with
  | none => cases half <;> rfl
  | some cs =>
      cases half with
      | none => exact (Char.ofNat_toNat c ▸ pushUnit_of_whole hhigh hlow).symm
      | some high =>
          rw [pushUnit_half, if_neg hlow]
          rfl

theorem foldl_pushUnit_none (units : List Nat) :
    units.foldl StringPart.pushUnit ⟨none, none⟩ = ⟨none, none⟩ := by
  induction units with
  | nil => rfl
  | cons n rest ih => exact ih

/-- The units of a string are put together to its characters. -/
theorem lexeme_foldl_pushUnit (units : List Nat) (cs : List Char) :
    (units.foldl StringPart.pushUnit (partOf cs)).lexeme =
      .text ((charsOf units).map fun more => String.ofList (cs.reverse ++ more)) := by
  fun_induction charsOf units generalizing cs with
  | case1 => simp [partOf, StringPart.lexeme]
  | case2 n hhalf =>
      rcases hhalf with hhigh | hlow
      · rw [List.foldl_cons, pushUnit_of_isHigh hhigh]
        rfl
      · rw [List.foldl_cons, pushUnit_of_isLow hlow]
        rfl
  | case3 n hwhole =>
      obtain ⟨hhigh, hlow⟩ := not_or.mp hwhole
      rw [List.foldl_cons, pushUnit_of_whole hhigh hlow]
      simp [partOf, StringPart.lexeme]
  | case4 high low rest hhigh hlow ih =>
      rw [List.foldl_cons, List.foldl_cons, pushUnit_of_isHigh hhigh, pushUnit_half, if_pos hlow,
        ih]
      simp [Function.comp_def]
  | case5 high low rest hhigh hlow =>
      rw [List.foldl_cons, List.foldl_cons, pushUnit_of_isHigh hhigh, pushUnit_half, if_neg hlow,
        foldl_pushUnit_none]
      rfl
  | case6 n next rest hhigh hlow =>
      rw [List.foldl_cons, pushUnit_of_isLow hlow, foldl_pushUnit_none]
      rfl
  | case7 n next rest hhigh hlow ih =>
      rw [List.foldl_cons, pushUnit_of_whole hhigh hlow, ih]
      simp [Function.comp_def]

theorem escaped?_of_mem {e c : Char} (h : (e, c) ∈ letterEscapes) : escaped? e = some c := by
  have hall : ∀ p ∈ letterEscapes, escaped? p.1 = some p.2 := by decide
  exact hall _ h

theorem ne_u_of_mem {e c : Char} (h : (e, c) ∈ letterEscapes) : e ≠ 'u' := by
  have hall : ∀ p ∈ letterEscapes, p.1 ≠ 'u' := by decide
  exact hall _ h

/-- However the characters of a string are spelled, they are read as its units. -/
theorem foldl_units {cs : List Char} {units : List Nat} (h : SpellsUnits cs units)
    (s : StringPart) (done : List Lexeme) :
    (cs.map some).foldl step (.string s, done) =
      (.string (units.foldl StringPart.pushUnit s), done) := by
  induction h generalizing s with
  | nil => rfl
  | @plain c cs units hc _ ih =>
      obtain ⟨hcontrol, hquote, hslash⟩ := hc
      have hstep : step (.string s, done) (some c) = (.string (s.pushUnit c.toNat), done) := by
        simp [step, hquote, hslash, hcontrol, push_eq_pushUnit]
      rw [List.map_cons, List.foldl_cons, hstep, ih]
      rfl
  | @letter e c cs units he _ ih =>
      have hstep : step (.escape s, done) (some e) = (.string (s.pushUnit c.toNat), done) := by
        simp [step, ne_u_of_mem he, escaped?_of_mem he, push_eq_pushUnit]
      have hslash : step (.string s, done) (some '\\') = (.escape s, done) := rfl
      rw [List.map_cons, List.foldl_cons, hslash, List.map_cons, List.foldl_cons, hstep, ih]
      rfl
  | @digits d₃ d₂ d₁ d₀ n₃ n₂ n₁ n₀ cs units h₃ h₂ h₁ h₀ _ ih =>
      have hstep : (([d₃, d₂, d₁, d₀] : List Char).map some).foldl step (.hex s 0 0, done) =
          (.string (s.pushUnit (((n₃ * 16 + n₂) * 16 + n₁) * 16 + n₀)), done) := by
        simp [step, h₃, h₂, h₁, h₀]
      have hopen : step (step (.string s, done) (some '\\')) (some 'u') = (.hex s 0 0, done) := rfl
      have hsplit : '\\' :: 'u' :: d₃ :: d₂ :: d₁ :: d₀ :: cs =
          '\\' :: 'u' :: ([d₃, d₂, d₁, d₀] ++ cs) := rfl
      rw [hsplit, List.map_cons, List.map_cons, List.foldl_cons, List.foldl_cons, hopen,
        List.map_append, List.foldl_append, hstep, ih]
      rfl

/-- A string is read as its text. -/
theorem lexemes_string {cs : List Char} {units : List Nat} (h : SpellsUnits cs units) :
    lexemes (('"' :: cs ++ ['"']).map some) =
      [.text ((charsOf units).map String.ofList)] := by
  have hopen : step (.between, []) (some '"') = (.string (partOf []), []) := rfl
  have hclose : ∀ s, step (.string s, []) (some '"') = (.between, [s.lexeme]) := fun _ => rfl
  rw [lexemes, List.cons_append, List.map_cons, List.foldl_cons, hopen, List.map_append,
    List.foldl_append, foldl_units h, List.map_singleton, List.foldl_cons, hclose,
    lexeme_foldl_pushUnit]
  rfl

/-! ### Numbers -/

/-- The digits of a fraction, but for the first. -/
theorem foldl_fraction {ds : List Char} (hds : ∀ d ∈ ds, isDigit d = true) (n : Number)
    (done : List Lexeme) :
    (ds.map some).foldl step (.number .fraction n, done) =
      (.number .fraction { n with fraction := ds.reverse ++ n.fraction }, done) := by
  induction ds generalizing n with
  | nil => rfl
  | cons d rest ih =>
      obtain ⟨hd, hrest⟩ := List.forall_mem_cons.mp hds
      have hstep : step (.number .fraction n, done) (some d) =
          (.number .fraction { n with fraction := d :: n.fraction }, done) := by
        simp [step, extend, hd]
      rw [List.map_cons, List.foldl_cons, hstep, ih hrest]
      simp

/-- The digits of an exponent, but for the first. -/
theorem foldl_exponent {ds : List Char} (hds : ∀ d ∈ ds, isDigit d = true) {n : Number}
    {down : Bool} {before : List Char} (hn : n.exponent = some (down, before))
    (done : List Lexeme) :
    (ds.map some).foldl step (.number .exponentDigits n, done) =
      (.number .exponentDigits { n with exponent := some (down, ds.reverse ++ before) }, done) := by
  induction ds generalizing n before with
  | nil => simp [← hn]
  | cons d rest ih =>
      obtain ⟨hd, hrest⟩ := List.forall_mem_cons.mp hds
      have hstep : step (.number .exponentDigits n, done) (some d) =
          (.number .exponentDigits { n with exponent := some (down, d :: before) }, done) := by
        simp [step, extend, hd, hn]
      rw [List.map_cons, List.foldl_cons, hstep, ih hrest rfl]
      simp

/-- The digits in front of the point, with their sign. -/
theorem foldl_whole {ds : List Char} (h : IsWhole ds) (negative : Bool) (done : List Lexeme) :
    ∃ part : NumberPart, (part = .zero ∨ part = .whole) ∧
      (((if negative then ['-'] else []) ++ ds).map some).foldl step (.between, done) =
        (.number part ⟨negative, ds.reverse, [], none⟩, done) := by
  obtain ⟨d, rest, rfl, hd, hrest⟩ : ∃ d rest, ds = d :: rest ∧ isDigit d = true ∧
      (rest = [] ∨ d ≠ '0' ∧ ∀ c ∈ rest, isDigit c = true) := by
    rcases h with rfl | ⟨⟨hne, hdigits⟩, hlead⟩
    · exact ⟨'0', [], rfl, rfl, Or.inl rfl⟩
    · obtain ⟨d, rest, rfl⟩ := List.exists_cons_of_ne_nil hne
      obtain ⟨hd, hrest⟩ := List.forall_mem_cons.mp hdigits
      exact ⟨d, rest, rfl, hd, Or.inr ⟨fun hzero => hlead (congrArg some hzero), hrest⟩⟩
  have hfirst : (((if negative then ['-'] else []) ++ d :: rest).map some).foldl step
      (.between, done) = (rest.map some).foldl step
        (.number (firstPart d) ⟨negative, [d], [], none⟩, done) := by
    cases negative with
    | false => exact congrArg (List.foldl step · (rest.map some)) (begin_digit hd done)
    | true => exact congrArg (List.foldl step · (rest.map some)) (step_minus_digit hd done)
  refine ⟨firstPart d, firstPart_cases d, ?_⟩
  rw [hfirst]
  rcases hrest with rfl | ⟨hzero, hdigits⟩
  · rfl
  · rw [firstPart, if_neg hzero, foldl_digits hdigits]
    simp

/-- The fraction is read behind the whole number. -/
theorem foldl_spellsFraction {cs ds : List Char} (h : SpellsFraction cs ds) {part : NumberPart}
    (hpart : part = .zero ∨ part = .whole) {n : Number} (hn : n.fraction = [])
    (done : List Lexeme) :
    ∃ part' : NumberPart, (part' = .zero ∨ part' = .whole ∨ part' = .fraction) ∧
      (cs.map some).foldl step (.number part n, done) =
        (.number part' { n with fraction := ds.reverse }, done) := by
  cases h with
  | absent =>
      refine ⟨part, by tauto, ?_⟩
      obtain ⟨negative, whole, fraction, exponent⟩ := n
      obtain rfl : fraction = [] := hn
      rfl
  | digits hds =>
      obtain ⟨hne, hdigits⟩ := hds
      obtain ⟨d, rest, rfl⟩ := List.exists_cons_of_ne_nil hne
      obtain ⟨hd, hrest⟩ := List.forall_mem_cons.mp hdigits
      have hpoint : step (.number part n, done) (some '.') = (.number .point n, done) := by
        rcases hpart with rfl | rfl <;> rfl
      have hfirst : step (.number .point n, done) (some d) =
          (.number .fraction { n with fraction := [d] }, done) := by
        simp [step, extend, hd]
      refine ⟨.fraction, Or.inr (Or.inr rfl), ?_⟩
      rw [List.map_cons, List.foldl_cons, hpoint, List.map_cons, List.foldl_cons, hfirst,
        foldl_fraction hrest]
      simp

/-- The exponent is read behind the rest of a number. -/
theorem foldl_spellsExponent {cs : List Char} {exponent : Option (Bool × List Char)}
    (h : SpellsExponent cs exponent) {part : NumberPart}
    (hpart : part = .zero ∨ part = .whole ∨ part = .fraction) {n : Number}
    (hn : n.exponent = none) (done : List Lexeme) :
    ∃ part' : NumberPart, part'.isEnd = true ∧
      (cs.map some).foldl step (.number part n, done) =
        (.number part' { n with exponent := exponent.map fun e => (e.1, e.2.reverse) }, done) := by
  have hmark : ∀ e, e = 'e' ∨ e = 'E' → step (.number part n, done) (some e) =
      (.number .exponent { n with exponent := some (false, []) }, done) := by
    rintro e (rfl | rfl) <;> rcases hpart with rfl | rfl | rfl <;> rfl
  -- the first digit may stand behind the letter or behind a sign
  have hdigits : ∀ {ds} (hds : AreDigits ds) (place : NumberPart) (down : Bool),
      place = .exponent ∨ place = .exponentSign →
      (ds.map some).foldl step (.number place { n with exponent := some (down, []) }, done) =
        (.number .exponentDigits { n with exponent := some (down, ds.reverse) }, done) := by
    rintro ds ⟨hne, hall⟩ place down hplace
    obtain ⟨d, rest, rfl⟩ := List.exists_cons_of_ne_nil hne
    obtain ⟨hd, hrest⟩ := List.forall_mem_cons.mp hall
    have hfirst : step (.number place { n with exponent := some (down, []) }, done) (some d) =
        (.number .exponentDigits { n with exponent := some (down, [d]) }, done) := by
      have hplus : d ≠ '+' := by rintro rfl; cases hd
      have hminus : d ≠ '-' := by rintro rfl; cases hd
      rcases hplace with rfl | rfl <;> simp [step, extend, hd, hplus, hminus]
    rw [List.map_cons, List.foldl_cons, hfirst, foldl_exponent hrest rfl]
    simp
  cases h with
  | absent =>
      refine ⟨part, by rcases hpart with rfl | rfl | rfl <;> rfl, ?_⟩
      obtain ⟨negative, whole, fraction, exponent⟩ := n
      obtain rfl : exponent = none := hn
      rfl
  | digits he hds =>
      refine ⟨.exponentDigits, rfl, ?_⟩
      rw [List.map_cons, List.foldl_cons, hmark _ he, hdigits hds .exponent false (Or.inl rfl)]
      rfl
  | plus he hds =>
      refine ⟨.exponentDigits, rfl, ?_⟩
      rw [List.map_cons, List.foldl_cons, hmark _ he]
      exact hdigits hds .exponentSign false (Or.inr rfl)
  | minus he hds =>
      refine ⟨.exponentDigits, rfl, ?_⟩
      rw [List.map_cons, List.foldl_cons, hmark _ he]
      exact hdigits hds .exponentSign true (Or.inr rfl)

/-- A number is read with all its digits. -/
theorem lexemes_number {cs : List Char} {n : Number} (h : SpellsNumber cs n) :
    lexemes (cs.map some) = [.number n] := by
  obtain ⟨hwhole, fraction, exponent, hfraction, hexponent, rfl⟩ := h
  obtain ⟨part₁, hpart₁, hread₁⟩ := foldl_whole hwhole n.negative []
  obtain ⟨part₂, hpart₂, hread₂⟩ := foldl_spellsFraction hfraction hpart₁
    (n := ⟨n.negative, n.whole.reverse, [], none⟩) rfl []
  obtain ⟨part₃, hpart₃, hread₃⟩ := foldl_spellsExponent hexponent hpart₂
    (n := ⟨n.negative, n.whole.reverse, n.fraction.reverse, none⟩) rfl []
  rw [lexemes, List.map_append, List.foldl_append, List.map_append, List.foldl_append, hread₁,
    hread₂, hread₃, finish, if_pos hpart₃]
  have hinOrder : ∀ e : Option (Bool × List Char),
      (e.map fun e => (e.1, e.2.reverse)).map (fun e => (e.1, e.2.reverse)) = e := by
    intro e
    cases e <;> simp
  simp [Number.inOrder, hinOrder]

/-! ### Whole texts -/

/-- A lexeme of one character, or a blank. -/
theorem lexemes_cons {c : Char} {ls : List Lexeme} (h : begin (some c) [] = (.between, ls))
    (behind : List (Option Char)) :
    lexemes (some c :: behind) = ls.reverse ++ lexemes behind := by
  have hstep : step (.between, []) (some c) = (.between, ls) := h
  rw [lexemes, List.foldl_cons, hstep, finish_foldl_between, List.reverse_append,
    List.reverse_reverse]

theorem lexemes_blanks_append {blanks : List Char} (h : AreBlanks blanks)
    (behind : List (Option Char)) : lexemes (blanks.map some ++ behind) = lexemes behind := by
  induction blanks with
  | nil => rfl
  | cons c rest ih =>
      obtain ⟨hc, hrest⟩ := List.forall_mem_cons.mp h
      have hblank : begin (some c) [] = (.between, []) := by
        rcases hc with rfl | rfl | rfl | rfl <;> rfl
      rw [List.map_cons, List.cons_append, lexemes_cons hblank, ih hrest]
      rfl

/-- Something that no number goes on with. -/
def Apart (behind : List (Option Char)) : Prop :=
  ∀ c, behind.head? = some (some c) → ¬ContinuesNumber c

/-- The characters are read as these lexemes, whatever stands behind them apart from them. -/
def ReadsAs (cs : List Char) (ls : List Lexeme) : Prop :=
  ∀ behind, Apart behind → lexemes (cs.map some ++ behind) = ls ++ lexemes behind

theorem apart_cons {c : Char} (h : ¬ContinuesNumber c) (behind : List (Option Char)) :
    Apart (some c :: behind) := by
  rintro d ⟨⟩
  exact h

theorem apart_nil : Apart [] := by
  rintro c ⟨⟩

theorem apart_blanks_append {blanks : List Char} (h : AreBlanks blanks)
    {behind : List (Option Char)} (hbehind : Apart behind) :
    Apart (blanks.map some ++ behind) := by
  cases blanks with
  | nil => exact hbehind
  | cons c rest =>
      refine apart_cons ?_ _
      rcases h c List.mem_cons_self with rfl | rfl | rfl | rfl <;> simp [ContinuesNumber, isDigit]

/-- The text of a single value is read apart from what stands behind it. -/
theorem ReadsAs.of_lexemes {cs : List Char} {ls : List Lexeme} (h : lexemes (cs.map some) = ls)
    (hvalue : IsValue ls) : ReadsAs cs ls := by
  intro behind hbehind
  subst h
  obtain ⟨l, hlast, hstray, _⟩ := hvalue.getLast?
  exact lexemes_append hlast hstray fun _ _ => hbehind

theorem ReadsAs.blanks {before cs after : List Char} {ls : List Lexeme} (h : ReadsAs cs ls)
    (hbefore : AreBlanks before) (hafter : AreBlanks after) :
    ReadsAs (before ++ cs ++ after) ls := by
  intro behind hbehind
  simp only [List.map_append, List.append_assoc]
  rw [lexemes_blanks_append hbefore, h _ (apart_blanks_append hafter hbehind),
    lexemes_blanks_append hafter]

/-- Texts with commas between them are read one after another. -/
theorem ReadsAs.commas (parts : List (List Char × List Lexeme))
    (h : ∀ p ∈ parts, ReadsAs p.1 p.2) (hne : parts ≠ []) :
    ReadsAs ([','].intercalate (parts.map Prod.fst))
      ([Lexeme.comma].intercalate (parts.map Prod.snd)) := by
  induction parts with
  | nil => exact absurd rfl hne
  | cons p others ih =>
      obtain ⟨hp, hothers⟩ := List.forall_mem_cons.mp h
      cases others with
      | nil => simpa using hp
      | cons q more =>
          intro behind hbehind
          have hcomma : ¬ContinuesNumber ',' := by simp [ContinuesNumber, isDigit]
          have hrest := ih hothers (by simp) behind hbehind
          simp only [List.map_cons, List.intercalate_cons_cons, List.map_append,
            List.append_assoc, List.cons_append, List.nil_append] at hrest ⊢
          rw [hp _ (apart_cons hcomma _), lexemes_cons (c := ',') rfl, hrest]
          rfl

/-- What stands between two brackets or braces is read as what stands there. -/
theorem ReadsAs.between {first last : Char} {open' close : Lexeme} {cs : List Char}
    {ls : List Lexeme} (h : ReadsAs cs ls) (hfirst : begin (some first) [] = (.between, [open']))
    (hlast : begin (some last) [] = (.between, [close])) (happart : ¬ContinuesNumber last) :
    ReadsAs (first :: cs ++ [last]) (open' :: ls ++ [close]) := by
  intro behind hbehind
  simp only [List.cons_append, List.map_cons, List.map_append, List.append_assoc, List.map_nil,
    List.nil_append]
  rw [lexemes_cons hfirst, h _ (apart_cons happart _), lexemes_cons hlast]
  simp

theorem ReadsAs.of_areBlanks {blanks : List Char} (h : AreBlanks blanks) : ReadsAs blanks [] :=
  fun behind _ => lexemes_blanks_append h behind

theorem ReadsAs.member {keyText valueText : List Char} {key : Option String} {value : List Lexeme}
    (hkey : ReadsAs keyText [.text key]) (hvalue : ReadsAs valueText value) :
    ReadsAs (keyText ++ ':' :: valueText) (memberLexemes key value) := by
  intro behind hbehind
  have hcolon : ¬ContinuesNumber ':' := by simp [ContinuesNumber, isDigit]
  simp only [List.map_append, List.map_cons, List.append_assoc, List.cons_append]
  rw [hkey _ (apart_cons hcolon _), lexemes_cons (c := ':') rfl, hvalue _ hbehind]
  rfl

theorem ReadsAs.brackets {cs : List Char} {ls : List Lexeme} (h : ReadsAs cs ls) :
    ReadsAs ('[' :: cs ++ [']']) (.openBracket :: ls ++ [.closeBracket]) :=
  h.between rfl rfl (by simp [ContinuesNumber, isDigit])

theorem ReadsAs.braces {cs : List Char} {ls : List Lexeme} (h : ReadsAs cs ls) :
    ReadsAs ('\x7b' :: cs ++ ['\x7d']) (.openBrace :: ls ++ [.closeBrace]) :=
  h.between rfl rfl (by simp [ContinuesNumber, isDigit])

/-- The text of a tree is read as its lexemes, by the rules of the grammar. -/
theorem readsAs_of_spells {text : List Char} {t : Tree} (h : Spells text t) :
    ReadsAs text t.lexemes := by
  induction h with
  | null => exact .of_lexemes (by rw [Tree.lexemes]; rfl) Tree.null.isValue_lexemes
  | bool b =>
      refine .of_lexemes ?_ (Tree.bool b).isValue_lexemes
      rw [Tree.lexemes]
      cases b <;> rfl
  | @number cs n h =>
      refine .of_lexemes ?_ (Tree.number n).isValue_lexemes
      rw [lexemes_number h, Tree.lexemes]
  | text h =>
      refine .of_lexemes ?_ (Tree.isValue_lexemes _)
      rw [lexemes_string h, Tree.lexemes]
  | emptyArray h =>
      rw [Tree.lexemes]
      exact (ReadsAs.of_areBlanks h).brackets
  | emptyObject h =>
      rw [Tree.lexemes]
      exact (ReadsAs.of_areBlanks h).braces
  | @array elements hne _ ih =>
      have hparts := ReadsAs.commas (elements.map fun e => (e.1, e.2.lexemes))
        (List.forall_mem_map.mpr ih) (by simpa using hne)
      simp only [List.map_map, Function.comp_def] at hparts
      rw [Tree.lexemes, List.map_map, arrayLexemes]
      exact hparts.brackets
  | @object members hne _ _ ihkeys ihvalues =>
      have hmember : ∀ m ∈ members, ReadsAs m.text (memberLexemes m.key m.value.lexemes) := by
        intro m hm
        have hkey := ihkeys m hm
        rw [Tree.lexemes] at hkey
        exact hkey.member (ihvalues m hm)
      have hparts := ReadsAs.commas
        (members.map fun m => (m.text, memberLexemes m.key m.value.lexemes))
        (List.forall_mem_map.mpr hmember) (by simpa using hne)
      simp only [List.map_map, Function.comp_def] at hparts
      rw [Tree.lexemes, List.map_map, objectLexemes, List.map_map]
      exact hparts.braces
  | blanks hbefore hafter _ ih => exact ih.blanks hbefore hafter

/-- **A text that says a tree is cut into the lexemes of the tree.** -/
theorem lexemes_of_spells {text : List Char} {t : Tree} (h : Spells text t) :
    lexemes (text.map some) = t.lexemes := by
  have hread := readsAs_of_spells h [] apart_nil
  rwa [List.append_nil, show lexemes [] = [] from rfl, List.append_nil] at hread

/-! ### Values in a gap -/

/-- The value that a text spells in a gap.  The blanks around the value are not part of it, but of
the text around the gap. -/
structure Gap.Holds {name : String} (g : Gap name) (value : String) (t : Tree) : Prop where
  spells : Spells value.toList t
  first : ∀ c, value.toList.head? = some c → ¬AreBlanks [c]
  last : ∀ c, value.toList.getLast? = some c → ¬AreBlanks [c]
  /-- A number is complete. -/
  apart : ∀ n, t = .number n → Apart g.after

theorem Gap.Holds.lexemes {name : String} {g : Gap name} {value : String} {t : Tree}
    (h : g.Holds value t) : Json.lexemes (ofText value) = t.lexemes :=
  lexemes_of_spells h.spells

theorem Gap.Holds.fits {name : String} {g : Gap name} {value : String} {t : Tree}
    (h : g.Holds value t) : g.Fits (ofText value) where
  isValue := h.lexemes ▸ t.isValue_lexemes
  apart := by
    intro n hn
    refine h.apart n (Tree.lexemes_injective ?_)
    rw [← h.lexemes, hn, Tree.lexemes]

/-- The word of a truth value. -/
def wordOf (b : Bool) : List Char :=
  if b then ['t', 'r', 'u', 'e'] else ['f', 'a', 'l', 's', 'e']

/-- A truth value is spelled by its word, with blanks around it. -/
theorem exists_blanks_of_bool {cs : List Char} {t : Tree} {b : Bool} (h : Spells cs t)
    (ht : t = .bool b) : ∃ before after, AreBlanks before ∧ AreBlanks after ∧
      cs = before ++ wordOf b ++ after := by
  induction h with
  | bool b' =>
      obtain rfl := Tree.bool.inj ht
      exact ⟨[], [], areBlanks_nil, areBlanks_nil, by simp [wordOf]⟩
  | @blanks before cs after t hbefore hafter _ ih =>
      obtain ⟨inner, outer, hinner, houter, rfl⟩ := ih ht
      refine ⟨before ++ inner, outer ++ after, List.forall_mem_append.mpr ⟨hbefore, hinner⟩,
        List.forall_mem_append.mpr ⟨houter, hafter⟩, ?_⟩
      simp only [List.append_assoc]
  | _ => cases ht

theorem Gap.Holds.toList_of_bool {name : String} {g : Gap name} {value : String} {b : Bool}
    (h : g.Holds value (.bool b)) : value.toList = wordOf b := by
  obtain ⟨before, after, hbefore, hafter, hvalue⟩ := exists_blanks_of_bool h.spells rfl
  have hfront : before = [] := by
    cases before with
    | nil => rfl
    | cons c rest =>
        exact absurd (hbefore.singleton List.mem_cons_self) (h.first c (by rw [hvalue]; rfl))
  have hback : after = [] := by
    cases hlast : after.getLast? with
    | none => exact List.getLast?_eq_none_iff.mp hlast
    | some c =>
        exact absurd (hafter.singleton (List.mem_of_getLast? hlast))
          (h.last c (by rw [hvalue, List.getLast?_append, hlast]; rfl))
  rw [hvalue, hfront, hback, List.nil_append, List.append_nil]

/-- The words of the truth values differ in length. -/
theorem Gap.Holds.bool_inj {name : String} {g : Gap name} {value value' : String} {b b' : Bool}
    (h : g.Holds value (.bool b)) (h' : g.Holds value' (.bool b'))
    (hsize : value.utf8ByteSize = value'.utf8ByteSize) : b = b' := by
  rw [← String.ofList_toList (s := value), h.toList_of_bool, ← String.ofList_toList (s := value'),
    h'.toList_of_bool] at hsize
  revert hsize
  cases b <;> cases b' <;> decide

/-! ### What is written -/

theorem charsOf_toNat (cs : List Char) : charsOf (cs.map Char.toNat) = some cs := by
  have hwhole : ∀ c : Char, ¬(IsHigh c.toNat ∨ IsLow c.toNat) :=
    fun c => not_or.mpr (not_isHalf_toNat c)
  induction cs with
  | nil => rfl
  | cons c rest ih =>
      obtain ⟨hhigh, hlow⟩ := not_isHalf_toNat c
      cases rest with
      | nil => simp [charsOf, hhigh, hlow, Char.ofNat_toNat]
      | cons d more =>
          rw [List.map_cons, List.map_cons, charsOf, if_neg hhigh, if_neg hlow, ← List.map_cons, ih]
          simp [Char.ofNat_toNat]

/-- A character is spelled by what is written for it. -/
theorem SpellsUnits.escapedChar (c : Char) {cs : List Char} {units : List Nat}
    (h : SpellsUnits cs units) : SpellsUnits (escapedChar c ++ cs) (c.toNat :: units) := by
  have hletter : ∀ e, (e, c) ∈ letterEscapes → SpellsUnits (['\\', e] ++ cs) (c.toNat :: units) :=
    fun _ he => .letter he h
  unfold Json.escapedChar
  split
  · next hc => exact hletter _ (by subst hc; decide)
  split
  · next hc => exact hletter _ (by subst hc; decide)
  split
  · next hc => exact hletter _ (by subst hc; decide)
  split
  · next hc => exact hletter _ (by subst hc; decide)
  split
  · next hc => exact hletter _ (by subst hc; decide)
  split
  · next hc => exact hletter _ (by subst hc; decide)
  split
  · next hc => exact hletter _ (by subst hc; decide)
  split
  · next hcontrol =>
    have hsmall : c.toNat < 32 := hcontrol
    have hhigh := hexValue?_hexDigit (show c.toNat / 16 < 16 by omega)
    have hlow := hexValue?_hexDigit (show c.toNat % 16 < 16 by omega)
    have hzero : hexValue? '0' = some 0 := by decide
    have hunit : ((0 * 16 + 0) * 16 + c.toNat / 16) * 16 + c.toNat % 16 = c.toNat := by omega
    have hdigits := SpellsUnits.digits hzero hzero hhigh hlow h
    rw [hunit] at hdigits
    exact hdigits
  · next hquote hslash _ _ _ _ _ hcontrol =>
    exact .plain ⟨Char.not_lt.mp hcontrol, hquote, hslash⟩ h

/-- **What is written for a string is JSON, and says the string.** -/
theorem spells_writeText (s : String) : Spells (writeText s).toList (.text (some s)) := by
  have hunits : ∀ cs : List Char, SpellsUnits (cs.flatMap escapedChar) (cs.map Char.toNat) := by
    intro cs
    induction cs with
    | nil => exact .nil
    | cons c rest ih => exact ih.escapedChar c
  have htext := Spells.text (hunits s.toList)
  rw [charsOf_toNat, Option.map_some, String.ofList_toList] at htext
  rw [writeText, String.toList_ofList]
  exact htext

/-- **What is written for an object is JSON**, if what is written for its values is. -/
theorem spells_writeObject {members : List (String × String × Tree)}
    (h : ∀ m ∈ members, Spells m.2.1.toList m.2.2) (hne : members ≠ []) :
    Spells (writeObject (members.map fun m => (m.1, m.2.1))).toList
      (.object (members.map fun m => (some m.1, m.2.2))) := by
  let spelled (m : String × String × Tree) : SpelledMember :=
    ⟨(writeText m.1).toList, some m.1, m.2.1.toList, m.2.2⟩
  have hkeys : ∀ m ∈ members.map spelled, Spells m.keyText (.text m.key) := by
    refine List.forall_mem_map.mpr ?_
    intro m _
    simp only [spelled]
    exact spells_writeText m.1
  have hvalues : ∀ m ∈ members.map spelled, Spells m.valueText m.value := List.forall_mem_map.mpr h
  have hobject := Spells.object (by simpa using hne) hkeys hvalues
  have hbraces : "\x7b".toList = ['\x7b'] ∧ "\x7d".toList = ['\x7d'] := ⟨rfl, rfl⟩
  have hseparators : ",".toList = [','] ∧ ":".toList = [':'] := ⟨rfl, rfl⟩
  simp only [writeObject, String.toList_append, String.toList_intercalate, hbraces.1, hbraces.2,
    hseparators.1, hseparators.2, List.map_map, Function.comp_def] at hobject ⊢
  simpa [spelled, SpelledMember.text] using hobject

end OrderDesk.Json
