/-
What a JSON text says.

The grammar of JSON is written down here apart from the reader: which trees there are, and in
which ways the text of a tree may be spelled.  There may be blanks around every value and every
key, and each character of a string may stand for itself, behind a backslash, or as four
hexadecimal digits, where a character outside the basic plane takes two escapes.

The lexemes of a tree are one value, and no two trees have the same.
-/
import OrderDesk.Proofs.Json.Grammar

namespace OrderDesk.Json

open OrderDesk.Text

/-! ### Trees -/

/-- What a JSON text says. -/
inductive Tree where
  | null
  | bool (b : Bool)
  | number (n : Number)
  /-- A string; it has no text when it names half a character. -/
  | text (s : Option String)
  | array (elements : List Tree)
  | object (members : List (Option String × Tree))

namespace Tree

/-- The lexemes of a tree. -/
def lexemes : Tree → List Lexeme
  | .null => [.null]
  | .bool b => [.bool b]
  | .number n => [.number n]
  | .text s => [.text s]
  | .array elements => arrayLexemes (elements.map fun t => t.lexemes)
  | .object members => objectLexemes (members.map fun m => (m.1, m.2.lexemes))
decreasing_by
  · have helement := List.sizeOf_lt_of_mem ‹t ∈ elements›
    simp only [array.sizeOf_spec]
    omega
  · have hmember := List.sizeOf_lt_of_mem ‹m ∈ members›
    obtain ⟨name, t⟩ := m
    simp only [Prod.mk.sizeOf_spec, object.sizeOf_spec] at hmember ⊢
    omega

theorem isValue_lexemes (t : Tree) : IsValue t.lexemes := by
  fun_induction Tree.lexemes t with
  | case1 => exact .null
  | case2 b => exact .bool b
  | case3 n => exact .number n
  | case4 s => exact .text s
  | case5 elements ih => exact .array _ (by simpa using ih)
  | case6 members ih =>
      refine .object _ ?_
      simp only [List.forall_mem_map]
      exact ih

end Tree

/-! ### Lexemes tell trees apart -/

/-- No value begins with a closing bracket. -/
theorem IsValue.exists_cons {v : List Lexeme} (hv : IsValue v) :
    ∃ l tail, v = l :: tail ∧ l ≠ .closeBracket := by
  cases hv <;> exact ⟨_, _, rfl, by simp⟩

/-- Of two rows of parts with commas in front of them, none of which is the beginning of another,
the parts are the same if the rows are. -/
theorem eq_of_commas {P : List Lexeme → Prop}
    (hfree : ∀ v w behind rest, P v → P w → v ++ behind = w ++ rest → v = w) {close : Lexeme}
    (hclose : close ≠ .comma) {vs ws : List (List Lexeme)} (hvs : ∀ v ∈ vs, P v)
    (hws : ∀ w ∈ ws, P w) (h : (vs.flatMap fun v => Lexeme.comma :: v) ++ [close] =
      (ws.flatMap fun w => Lexeme.comma :: w) ++ [close]) : vs = ws := by
  induction vs generalizing ws with
  | nil =>
      cases ws with
      | nil => rfl
      | cons w others => exact absurd (List.cons.inj h).1 hclose
  | cons v more ih =>
      cases ws with
      | nil => exact absurd (List.cons.inj h).1.symm hclose
      | cons w others =>
          obtain ⟨hv, hmore⟩ := List.forall_mem_cons.mp hvs
          obtain ⟨hw, hothers⟩ := List.forall_mem_cons.mp hws
          simp only [List.flatMap_cons, List.cons_append, List.append_assoc, List.cons.injEq,
            true_and] at h
          obtain rfl := hfree v w _ _ hv hw h
          rw [ih hmore hothers (List.append_cancel_left h)]

/-- The same between brackets, without a comma in front of the first part. -/
theorem eq_of_intercalate {P : List Lexeme → Prop}
    (hfree : ∀ v w behind rest, P v → P w → v ++ behind = w ++ rest → v = w) {close : Lexeme}
    (hclose : close ≠ .comma) (hhead : ∀ v behind, P v → v ++ behind ≠ [close])
    {vs ws : List (List Lexeme)} (hvs : ∀ v ∈ vs, P v) (hws : ∀ w ∈ ws, P w)
    (h : [Lexeme.comma].intercalate vs ++ [close] = [Lexeme.comma].intercalate ws ++ [close]) :
    vs = ws := by
  cases vs with
  | nil =>
      cases ws with
      | nil => rfl
      | cons w others =>
          rw [intercalate_cons, List.append_assoc] at h
          exact absurd h.symm (hhead w _ (hws w List.mem_cons_self))
  | cons v more =>
      cases ws with
      | nil =>
          rw [intercalate_cons, List.append_assoc] at h
          exact absurd h (hhead v _ (hvs v List.mem_cons_self))
      | cons w others =>
          rw [intercalate_cons, intercalate_cons] at h
          refine eq_of_commas hfree hclose hvs hws ?_
          simpa using h

/-- Lexemes that make up one member. -/
def IsMember (ls : List Lexeme) : Prop := ∃ name v, IsValue v ∧ ls = memberLexemes name v

theorem memberLexemes_unique {name name' : Option String} {v w behind rest : List Lexeme}
    (hv : IsValue v) (hw : IsValue w)
    (h : memberLexemes name v ++ behind = memberLexemes name' w ++ rest) :
    name = name' ∧ v = w := by
  simp only [memberLexemes, List.cons_append, List.cons.injEq, Lexeme.text.injEq, true_and] at h
  exact ⟨h.1, hv.unique hw h.2⟩

theorem IsMember.unique {l l' behind rest : List Lexeme} (hl : IsMember l) (hl' : IsMember l')
    (h : l ++ behind = l' ++ rest) : l = l' := by
  obtain ⟨name, v, hv, rfl⟩ := hl
  obtain ⟨name', w, hw, rfl⟩ := hl'
  obtain ⟨rfl, rfl⟩ := memberLexemes_unique hv hw h
  rfl

/-- Rows that are the same part by part, where the parts tell their elements apart. -/
theorem eq_of_map_eq {α β : Type} {f : α → β} {xs ys : List α}
    (hf : ∀ x ∈ xs, ∀ y, f x = f y → x = y) (h : xs.map f = ys.map f) : xs = ys := by
  induction xs generalizing ys with
  | nil => exact (List.map_eq_nil_iff.mp h.symm).symm
  | cons x more ih =>
      obtain ⟨hx, hmore⟩ := List.forall_mem_cons.mp hf
      cases ys with
      | nil => cases h
      | cons y others =>
          obtain ⟨hfirst, hrest⟩ := List.cons.inj h
          rw [hx y hfirst, ih hmore hrest]

/-- **No two trees have the same lexemes.** -/
theorem Tree.lexemes_injective {t t' : Tree} (h : t.lexemes = t'.lexemes) : t = t' := by
  induction t using Tree.lexemes.induct generalizing t' with
  | case5 elements ih =>
      cases t' <;> simp only [Tree.lexemes] at h <;> try cases h
      next elements' =>
        have hvalues : ∀ ts : List Tree, ∀ v ∈ ts.map Tree.lexemes, IsValue v :=
          fun ts => List.forall_mem_map.mpr fun t _ => t.isValue_lexemes
        have hhead : ∀ v behind, IsValue v → v ++ behind ≠ [Lexeme.closeBracket] := by
          rintro v behind hv hclosed
          obtain ⟨l, tail, rfl, hl⟩ := hv.exists_cons
          exact hl (List.cons.inj hclosed).1
        have hsame := eq_of_intercalate (fun _ _ _ _ => IsValue.unique) (by simp) hhead
          (hvalues elements) (hvalues elements') (List.cons.inj h).2
        exact congrArg Tree.array (eq_of_map_eq (fun t ht t' => ih t ht) hsame)
  | case6 members ih =>
      cases t' <;> simp only [Tree.lexemes] at h <;> try cases h
      next members' =>
        have hmembers : ∀ ms : List (Option String × Tree),
            ∀ l ∈ ms.map fun m => memberLexemes m.1 m.2.lexemes, IsMember l :=
          fun ms => List.forall_mem_map.mpr fun m _ => ⟨_, _, m.2.isValue_lexemes, rfl⟩
        have hhead : ∀ l behind, IsMember l → l ++ behind ≠ [Lexeme.closeBrace] := by
          rintro _ behind ⟨name, v, hv, rfl⟩ ⟨⟩
        have hbody := (List.cons.inj h).2
        rw [List.map_map, List.map_map] at hbody
        have hsame := eq_of_intercalate (fun _ _ _ _ => IsMember.unique) (by simp) hhead
          (hmembers members) (hmembers members') hbody
        refine congrArg Tree.object (eq_of_map_eq ?_ hsame)
        rintro ⟨name, t⟩ hm ⟨name', t'⟩ hmember
        obtain ⟨hname, hvalue⟩ := memberLexemes_unique t.isValue_lexemes t'.isValue_lexemes
          (congrArg (· ++ []) hmember)
        exact Prod.ext hname (ih _ hm hvalue)
  | _ =>
      cases t' <;> simp only [Tree.lexemes] at h <;> cases h
      rfl

theorem Tree.lexemes_eq_iff {t t' : Tree} {ls : List Lexeme} (h : t'.lexemes = ls) :
    t.lexemes = ls ↔ t = t' := by
  subst h
  exact ⟨Tree.lexemes_injective, fun h => h ▸ rfl⟩

/-! ### The grammar -/

/-- Blanks, which make no difference between values. -/
def AreBlanks (cs : List Char) : Prop := ∀ c ∈ cs, c = ' ' ∨ c = '\t' ∨ c = '\n' ∨ c = '\r'

/-- A character that stands for itself in a string. -/
def IsPlain (c : Char) : Prop := ' ' ≤ c ∧ c ≠ '"' ∧ c ≠ '\\'

instance (c : Char) : Decidable (IsPlain c) := inferInstanceAs (Decidable (_ ∧ _))

/-- The letters that stand for a character behind a backslash, each with its character. -/
def letterEscapes : List (Char × Char) :=
  [('"', '"'), ('\\', '\\'), ('/', '/'), ('b', '\x08'), ('f', '\x0c'), ('n', '\n'), ('r', '\r'),
    ('t', '\t')]

/-- What stands between the quotes of a string names these characters and halves of characters. -/
inductive SpellsUnits : List Char → List Nat → Prop where
  | nil : SpellsUnits [] []
  | plain {c : Char} {cs : List Char} {units : List Nat} (hc : IsPlain c)
      (h : SpellsUnits cs units) : SpellsUnits (c :: cs) (c.toNat :: units)
  | letter {e c : Char} {cs : List Char} {units : List Nat} (he : (e, c) ∈ letterEscapes)
      (h : SpellsUnits cs units) : SpellsUnits ('\\' :: e :: cs) (c.toNat :: units)
  | digits {d₃ d₂ d₁ d₀ : Char} {n₃ n₂ n₁ n₀ : Nat} {cs : List Char} {units : List Nat}
      (h₃ : hexValue? d₃ = some n₃) (h₂ : hexValue? d₂ = some n₂) (h₁ : hexValue? d₁ = some n₁)
      (h₀ : hexValue? d₀ = some n₀) (h : SpellsUnits cs units) :
      SpellsUnits ('\\' :: 'u' :: d₃ :: d₂ :: d₁ :: d₀ :: cs)
        ((((n₃ * 16 + n₂) * 16 + n₁) * 16 + n₀) :: units)

/-- The first half of a character. -/
def IsHigh (n : Nat) : Prop := 0xD800 ≤ n ∧ n < 0xDC00

/-- The second half of a character. -/
def IsLow (n : Nat) : Prop := 0xDC00 ≤ n ∧ n < 0xE000

instance (n : Nat) : Decidable (IsHigh n) := inferInstanceAs (Decidable (_ ∧ _))

instance (n : Nat) : Decidable (IsLow n) := inferInstanceAs (Decidable (_ ∧ _))

/-- The character of two halves. -/
def ofHalves (high low : Nat) : Char :=
  Char.ofNat ((high - 0xD800) * 0x400 + (low - 0xDC00) + 0x10000)

/-- The characters that are named, unless half a character is left alone. -/
def charsOf : List Nat → Option (List Char)
  | [] => some []
  | [n] => if IsHigh n ∨ IsLow n then none else some [Char.ofNat n]
  | n :: next :: rest =>
    if IsHigh n then
      if IsLow next then (charsOf rest).map (ofHalves n next :: ·) else none
    else if IsLow n then none
    else (charsOf (next :: rest)).map (Char.ofNat n :: ·)

/-- Digits, and at least one. -/
def AreDigits (ds : List Char) : Prop := ds ≠ [] ∧ ∀ d ∈ ds, isDigit d = true

/-- What stands in front of the point: a zero, or digits that do not begin with one. -/
def IsWhole (ds : List Char) : Prop := ds = ['0'] ∨ AreDigits ds ∧ ds.head? ≠ some '0'

/-- The fraction of a number and its digits. -/
inductive SpellsFraction : List Char → List Char → Prop where
  | absent : SpellsFraction [] []
  | digits {ds : List Char} (h : AreDigits ds) : SpellsFraction ('.' :: ds) ds

/-- The exponent of a number, with its sign and digits. -/
inductive SpellsExponent : List Char → Option (Bool × List Char) → Prop where
  | absent : SpellsExponent [] none
  | digits {e : Char} {ds : List Char} (he : e = 'e' ∨ e = 'E') (h : AreDigits ds) :
      SpellsExponent (e :: ds) (some (false, ds))
  | plus {e : Char} {ds : List Char} (he : e = 'e' ∨ e = 'E') (h : AreDigits ds) :
      SpellsExponent (e :: '+' :: ds) (some (false, ds))
  | minus {e : Char} {ds : List Char} (he : e = 'e' ∨ e = 'E') (h : AreDigits ds) :
      SpellsExponent (e :: '-' :: ds) (some (true, ds))

/-- The text of a number: its sign, what stands in front of the point, its fraction and its
exponent. -/
def SpellsNumber (cs : List Char) (n : Number) : Prop :=
  IsWhole n.whole ∧ ∃ fraction exponent, SpellsFraction fraction n.fraction ∧
    SpellsExponent exponent n.exponent ∧
    cs = (if n.negative then ['-'] else []) ++ n.whole ++ fraction ++ exponent

/-- A member of an object with the texts of its key and its value. -/
structure SpelledMember where
  keyText : List Char
  key : Option String
  valueText : List Char
  value : Tree

/-- The text of a member. -/
def SpelledMember.text (m : SpelledMember) : List Char := m.keyText ++ ':' :: m.valueText

/-- The text is a JSON text, and this is what it says. -/
inductive Spells : List Char → Tree → Prop where
  | null : Spells ['n', 'u', 'l', 'l'] .null
  | bool (b : Bool) :
      Spells (if b then ['t', 'r', 'u', 'e'] else ['f', 'a', 'l', 's', 'e']) (.bool b)
  | number {cs : List Char} {n : Number} (h : SpellsNumber cs n) : Spells cs (.number n)
  | text {cs : List Char} {units : List Nat} (h : SpellsUnits cs units) :
      Spells ('"' :: cs ++ ['"']) (.text ((charsOf units).map String.ofList))
  | emptyArray {blanks : List Char} (h : AreBlanks blanks) :
      Spells ('[' :: blanks ++ [']']) (.array [])
  | array {elements : List (List Char × Tree)} (hne : elements ≠ [])
      (h : ∀ e ∈ elements, Spells e.1 e.2) :
      Spells ('[' :: [','].intercalate (elements.map Prod.fst) ++ [']'])
        (.array (elements.map Prod.snd))
  | emptyObject {blanks : List Char} (h : AreBlanks blanks) :
      Spells ('\x7b' :: blanks ++ ['\x7d']) (.object [])
  | object {members : List SpelledMember} (hne : members ≠ [])
      (hkeys : ∀ m ∈ members, Spells m.keyText (.text m.key))
      (hvalues : ∀ m ∈ members, Spells m.valueText m.value) :
      Spells ('\x7b' :: [','].intercalate (members.map SpelledMember.text) ++ ['\x7d'])
        (.object (members.map fun m => (m.key, m.value)))
  | blanks {before cs after : List Char} {t : Tree} (hbefore : AreBlanks before)
      (hafter : AreBlanks after) (h : Spells cs t) : Spells (before ++ cs ++ after) t

theorem areBlanks_nil : AreBlanks [] := fun _ h => absurd h List.not_mem_nil

theorem AreBlanks.singleton {cs : List Char} {c : Char} (h : AreBlanks cs) (hc : c ∈ cs) :
    AreBlanks [c] := by
  intro d hd
  rw [List.mem_singleton.mp hd]
  exact h c hc

/-- An array of one element. -/
theorem Spells.singleton {cs : List Char} {t : Tree} (h : Spells cs t) :
    Spells ('[' :: cs ++ [']']) (.array [t]) := by
  have harray := Spells.array (List.cons_ne_nil (cs, t) []) (List.forall_mem_singleton.mpr h)
  rwa [List.map_singleton, List.map_singleton, List.intercalate_singleton] at harray

end OrderDesk.Json
