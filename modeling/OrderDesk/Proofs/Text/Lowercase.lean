/-
Looking for a word in a text whose letters have been made small.

Making all letters of a text small takes more than a character at a time: what becomes of a
letter outside ASCII may be several characters, and may depend on what stands around it.  Two
characters outside ASCII even bring letters of ASCII with them, the Kelvin sign a `k` and the
dotted capital I an `i` with a dot above behind it.  Everything else outside ASCII stays
outside.

So a word of small ASCII letters that has no `k` and does not end in an `i` is found in the small
text exactly when it stands in the text itself, in letters of either case.  Nothing outside ASCII
can hide such a word, break it, or make it up.
-/
import Mathlib.Data.Bool.AllAny
import Mathlib.Data.List.Infix
import OrderDesk.Text.Ascii

namespace OrderDesk.Text

/-! ### Small letters -/

/-- Outside ASCII. -/
def Foreign (c : Char) : Prop := 128 ≤ c.toNat

instance : DecidablePred Foreign := fun c => inferInstanceAs (Decidable (128 ≤ c.toNat))

/-- What may become of a character when letters are made small. -/
inductive SmallForm : Char → List Char → Prop
  | ascii {c : Char} (h : ¬Foreign c) : SmallForm c [lowerAscii c]
  | kelvin : SmallForm '\u212A' ['k']
  | dotted : SmallForm '\u0130' ['i', '\u0307']
  | foreign {c : Char} {image : List Char} (hc : Foreign c) (hne : image ≠ [])
      (himage : ∀ d ∈ image, Foreign d) : SmallForm c image

/-- The second text may be the first in small letters.  A foreign character is not held to one
form, so that it may have another one at the end of a word. -/
inductive Lowercased : List Char → List Char → Prop
  | nil : Lowercased [] []
  | cons {c : Char} {image cs lowered : List Char} (hc : SmallForm c image)
      (hcs : Lowercased cs lowered) : Lowercased (c :: cs) (image ++ lowered)

/-- A word that small letters neither hide nor make up. -/
structure Robust (word : List Char) : Prop where
  ascii : ∀ d ∈ word, ¬Foreign d
  small : ∀ d ∈ word, lowerAscii d = d
  no_k : 'k' ∉ word
  last : word.getLast? ≠ some 'i'

instance (word : List Char) : Decidable (Robust word) :=
  decidable_of_iff (word.all (fun d => ¬Foreign d ∧ lowerAscii d = d) ∧ 'k' ∉ word ∧
      word.getLast? ≠ some 'i')
    ⟨fun ⟨h, hk, hlast⟩ => ⟨fun d hd => (List.all_iff_forall_prop.mp h d hd).1,
        fun d hd => (List.all_iff_forall_prop.mp h d hd).2, hk, hlast⟩,
      fun h => ⟨List.all_iff_forall_prop.mpr fun d hd => ⟨h.ascii d hd, h.small d hd⟩,
        h.no_k, h.last⟩⟩

theorem lowerAscii_of_foreign {c : Char} (h : Foreign c) : lowerAscii c = c := by
  have hnot : ¬('A' ≤ c ∧ c ≤ 'Z') := by
    intro hcapital
    have hbounds := capital_bounds hcapital
    have h128 : 128 ≤ c.toNat := h
    omega
  rw [lowerAscii, if_neg hnot]

theorem SmallForm.eq_of_not_foreign {c : Char} {image : List Char} (h : SmallForm c image)
    (hc : ¬Foreign c) : image = [lowerAscii c] := by
  cases h with
  | ascii _ => rfl
  | kelvin => exact absurd (by decide) hc
  | dotted => exact absurd (by decide) hc
  | foreign hforeign _ _ => exact absurd hforeign hc

theorem Robust.tail {d : Char} {word : List Char} (h : Robust (d :: word)) : Robust word where
  ascii := fun e he => h.ascii e (List.mem_cons_of_mem _ he)
  small := fun e he => h.small e (List.mem_cons_of_mem _ he)
  no_k := fun hk => h.no_k (List.mem_cons_of_mem _ hk)
  last := by
    cases word with
    | nil => simp
    | cons e rest =>
        have hlast := h.last
        rwa [List.getLast?_cons_cons] at hlast

/-- Equal up to the case of ASCII letters, one character after the other. -/
theorem equalIgnoringCase_iff {sub word : List Char} :
    equalIgnoringCase sub word = true ↔ sub.map lowerAscii = word.map lowerAscii := by
  rw [equalIgnoringCase, beq_iff_eq]

/-- What equals a robust word becomes that word in small letters. -/
theorem Robust.equalIgnoringCase_iff {sub word : List Char} (h : Robust word) :
    equalIgnoringCase sub word = true ↔ sub.map lowerAscii = word := by
  have hsmall : word.map lowerAscii = word := by
    rw [List.map_congr_left (g := id) h.small, List.map_id]
  rw [Text.equalIgnoringCase_iff, hsmall]

/-! ### Finding a word -/

theorem occursIn_iff {word cs : List Char} : occursIn word cs = true ↔ word <:+: cs := by
  induction cs with
  | nil => rw [occursIn, List.isEmpty_iff, List.infix_nil]
  | cons c rest ih =>
      rw [occursIn, Bool.or_eq_true, List.isPrefixOf_iff_prefix, ih, List.infix_cons_iff]

/-- A word of ASCII does not begin among foreign characters. -/
theorem infix_foreign_append_iff {d : Char} {word image rest : List Char} (hd : ¬Foreign d)
    (himage : ∀ c ∈ image, Foreign c) :
    d :: word <:+: image ++ rest ↔ d :: word <:+: rest := by
  induction image with
  | nil => rw [List.nil_append]
  | cons c image ih =>
      have hnot : ¬d :: word <+: c :: (image ++ rest) := by
        rw [List.cons_prefix_cons]
        rintro ⟨rfl, -⟩
        exact hd (himage d (List.mem_cons_self ..))
      rw [List.cons_append, List.infix_cons_iff, or_iff_right hnot,
        ih fun c hc => himage c (List.mem_cons_of_mem _ hc)]

/-- A robust word does not begin with anything that a foreign character becomes. -/
theorem not_prefix_smallForm {d c : Char} {word image rest : List Char} (h : Robust (d :: word))
    (hc : SmallForm c image) (hforeign : Foreign c) : ¬d :: word <+: image ++ rest := by
  intro hbegins
  cases hc with
  | ascii hascii => exact hascii hforeign
  | kelvin =>
      rw [List.singleton_append, List.cons_prefix_cons] at hbegins
      exact h.no_k (hbegins.1 ▸ List.mem_cons_self ..)
  | dotted =>
      rw [List.cons_append, List.cons_prefix_cons] at hbegins
      obtain ⟨rfl, hword⟩ := hbegins
      cases word with
      | nil => exact h.last rfl
      | cons e more =>
          -- the dot above is foreign
          rw [List.singleton_append, List.cons_prefix_cons] at hword
          refine h.tail.ascii e (List.mem_cons_self ..) ?_
          rw [hword.1]
          decide
  | foreign _ hne himage =>
      cases image with
      | nil => exact hne rfl
      | cons e more =>
          rw [List.cons_append, List.cons_prefix_cons] at hbegins
          refine h.ascii d (List.mem_cons_self ..) ?_
          rw [hbegins.1]
          exact himage e (List.mem_cons_self ..)

/-- What a foreign character becomes leaves a robust word behind it as it was. -/
theorem infix_smallForm_append_iff {d c : Char} {word image rest : List Char}
    (h : Robust (d :: word)) (hc : SmallForm c image) (hforeign : Foreign c) :
    d :: word <:+: image ++ rest ↔ d :: word <:+: rest := by
  have hd : ¬Foreign d := h.ascii d (List.mem_cons_self ..)
  have hbegins : ¬d :: word <+: image ++ rest := not_prefix_smallForm h hc hforeign
  cases hc with
  | ascii hascii => exact absurd hforeign hascii
  | kelvin =>
      rw [List.singleton_append] at hbegins ⊢
      rw [List.infix_cons_iff, or_iff_right hbegins]
  | dotted =>
      have hdot : ∀ c ∈ ['\u0307'], Foreign c := List.all_iff_forall_prop.mp (by decide)
      rw [List.cons_append] at hbegins ⊢
      rw [List.infix_cons_iff, or_iff_right hbegins, infix_foreign_append_iff hd hdot]
  | foreign _ _ himage => exact infix_foreign_append_iff hd himage

/-- What equals a word of ASCII does not begin with a foreign character. -/
theorem not_foreign_of_map {d c : Char} {word sub : List Char} (h : Robust (d :: word))
    (hsub : (c :: sub).map lowerAscii = d :: word) : ¬Foreign c := by
  intro hforeign
  rw [List.map_cons, lowerAscii_of_foreign hforeign, List.cons.injEq] at hsub
  exact h.ascii d (List.mem_cons_self ..) (hsub.1 ▸ hforeign)

/-- The small text begins with a robust word exactly when the text does, in letters of either
case. -/
theorem prefix_lowercased_iff {cs lowered word : List Char} (h : Lowercased cs lowered)
    (hword : Robust word) :
    word <+: lowered ↔ ∃ sub, sub <+: cs ∧ sub.map lowerAscii = word := by
  induction h generalizing word with
  | nil =>
      rw [List.prefix_nil]
      constructor
      · rintro rfl
        exact ⟨[], List.nil_prefix, rfl⟩
      · rintro ⟨sub, hsub, rfl⟩
        rw [List.prefix_nil.mp hsub, List.map_nil]
  | @cons c image cs lowered hc hcs ih =>
      cases word with
      | nil => exact iff_of_true List.nil_prefix ⟨[], List.nil_prefix, rfl⟩
      | cons d word =>
          by_cases hforeign : Foreign c
          · refine iff_of_false (not_prefix_smallForm hword hc hforeign) ?_
            rintro ⟨sub, hsub, hmap⟩
            cases sub with
            | nil => simp at hmap
            | cons e sub =>
                rw [List.cons_prefix_cons] at hsub
                exact not_foreign_of_map hword hmap (hsub.1 ▸ hforeign)
          · rw [hc.eq_of_not_foreign hforeign, List.singleton_append, List.cons_prefix_cons,
              ih hword.tail]
            constructor
            · rintro ⟨rfl, sub, hsub, hmap⟩
              exact ⟨c :: sub, List.cons_prefix_cons.mpr ⟨rfl, hsub⟩, by rw [List.map_cons, hmap]⟩
            · rintro ⟨sub, hsub, hmap⟩
              cases sub with
              | nil => simp at hmap
              | cons e sub =>
                  rw [List.cons_prefix_cons] at hsub
                  rw [List.map_cons, List.cons.injEq, hsub.1] at hmap
                  exact ⟨hmap.1.symm, sub, hsub.2, hmap.2⟩

/-- **A robust word is found in the small text exactly when it stands in the text**, in letters
of either case and whatever stands around it. -/
theorem infix_lowercased_iff {cs lowered word : List Char} (h : Lowercased cs lowered)
    (hword : Robust word) :
    word <:+: lowered ↔ ∃ sub, sub <:+: cs ∧ equalIgnoringCase sub word = true := by
  simp only [hword.equalIgnoringCase_iff]
  cases word with
  | nil => exact iff_of_true List.nil_infix ⟨[], List.nil_infix, rfl⟩
  | cons d word =>
      induction h with
      | nil =>
          refine iff_of_false (by simp) ?_
          rintro ⟨sub, hsub, hmap⟩
          rw [List.infix_nil.mp hsub] at hmap
          simp at hmap
      | @cons c image cs lowered hc hcs ih =>
          -- the word begins with `c`, or stands behind it
          have hwhere : (∃ sub, sub <:+: c :: cs ∧ sub.map lowerAscii = d :: word) ↔
              (∃ sub, sub <+: c :: cs ∧ sub.map lowerAscii = d :: word) ∨
                ∃ sub, sub <:+: cs ∧ sub.map lowerAscii = d :: word := by
            simp only [List.infix_cons_iff, or_and_right, exists_or]
          have hbegins := prefix_lowercased_iff (.cons hc hcs) hword
          rw [hwhere, ← hbegins, ← ih]
          by_cases hforeign : Foreign c
          · rw [infix_smallForm_append_iff hword hc hforeign,
              or_iff_right (not_prefix_smallForm hword hc hforeign)]
          · rw [hc.eq_of_not_foreign hforeign, List.singleton_append, List.infix_cons_iff]

end OrderDesk.Text
