/-
What is left of a text without the blanks around it.

The core of a text has only blanks in front of it and behind it, and neither begins nor ends
with one.  Every text has one core and no other, so what `trim` gives can be spoken of without
saying how the ends are found.
-/
import Mathlib.Data.List.TakeWhile
import OrderDesk.Text.Blank

namespace OrderDesk.Text

/-- What is left of the text when the blanks on both sides are gone. -/
structure IsCore (cs core : List Char) : Prop where
  split : ∃ before behind, cs = before ++ core ++ behind ∧
    (∀ c ∈ before, isBlank c = true) ∧ ∀ c ∈ behind, isBlank c = true
  head : ∀ c, core.head? = some c → isBlank c = false
  last : ∀ c, core.getLast? = some c → isBlank c = false

/-- A character of ASCII that is neither a control nor the space is no blank. -/
theorem isBlank_of_bounds {c : Char} (h : 32 < c.toNat ∧ c.toNat < 127) : isBlank c = false := by
  rw [isBlank, List.any_eq_false]
  intro range hrange
  simp only [blankRanges, List.mem_cons, List.not_mem_nil, or_false] at hrange
  rw [Bool.and_eq_true, decide_eq_true_eq, decide_eq_true_eq]
  rcases hrange with rfl | rfl | rfl | rfl | rfl | rfl | rfl | rfl | rfl | rfl <;> omega

/-! ### Dropping blanks -/

theorem trimEnd_eq (cs : List Char) : trimEnd cs = (trimStart cs.reverse).reverse := rfl

/-- The blanks in front, and the rest. -/
theorem exists_trimStart (cs : List Char) :
    ∃ before, cs = before ++ trimStart cs ∧ ∀ c ∈ before, isBlank c = true :=
  ⟨cs.takeWhile isBlank, List.takeWhile_append_dropWhile.symm, fun _ => List.mem_takeWhile_imp⟩

/-- The blanks behind, and the rest. -/
theorem exists_trimEnd (cs : List Char) :
    ∃ behind, cs = trimEnd cs ++ behind ∧ ∀ c ∈ behind, isBlank c = true := by
  obtain ⟨before, hsplit, hbefore⟩ := exists_trimStart cs.reverse
  refine ⟨before.reverse, ?_, fun c hc => hbefore c (List.mem_reverse.mp hc)⟩
  rw [trimEnd_eq, ← List.reverse_append, ← hsplit, List.reverse_reverse]

theorem head_trimStart {cs : List Char} {c : Char} (h : (trimStart cs).head? = some c) :
    isBlank c = false := by
  have hhead := List.head?_dropWhile_not isBlank cs
  rw [trimStart] at h
  rw [h] at hhead
  exact hhead

theorem trimStart_of_head {cs : List Char} (h : ∀ c, cs.head? = some c → isBlank c = false) :
    trimStart cs = cs := by
  cases cs with
  | nil => rfl
  | cons c rest => exact List.dropWhile_cons_of_neg (Bool.eq_false_iff.mp (h c rfl))

theorem trimEnd_of_last {cs : List Char} (h : ∀ c, cs.getLast? = some c → isBlank c = false) :
    trimEnd cs = cs := by
  rw [trimEnd_eq, trimStart_of_head, List.reverse_reverse]
  intro c hc
  rw [List.head?_reverse] at hc
  exact h c hc

/-- Blanks in front make no difference. -/
theorem trimStart_append {before cs : List Char} (h : ∀ c ∈ before, isBlank c = true) :
    trimStart (before ++ cs) = trimStart cs :=
  List.dropWhile_append_of_pos h

/-- Blanks behind make no difference. -/
theorem trimEnd_append {cs behind : List Char} (h : ∀ c ∈ behind, isBlank c = true) :
    trimEnd (cs ++ behind) = trimEnd cs := by
  rw [trimEnd_eq, List.reverse_append, trimStart_append, ← trimEnd_eq]
  exact fun c hc => h c (List.mem_reverse.mp hc)

/-! ### The core -/

/-- What `trim` gives is the core. -/
theorem isCore_trim (cs : List Char) : IsCore cs (trim cs) := by
  obtain ⟨before, hstart, hbefore⟩ := exists_trimStart cs
  obtain ⟨behind, hend, hbehind⟩ := exists_trimEnd (trimStart cs)
  refine ⟨⟨before, behind, ?_, hbefore, hbehind⟩, ?_, ?_⟩
  · rw [List.append_assoc, trim, ← hend, ← hstart]
  · -- the first character is the one that the blanks in front stop at
    intro c hc
    have hhead : (trimStart cs).head? = some c := by
      rw [hend, ← trim, List.head?_append, hc]
      rfl
    exact head_trimStart hhead
  · intro c hc
    rw [trim, trimEnd_eq, List.getLast?_reverse] at hc
    exact head_trimStart hc

/-- **A text has one core.** -/
theorem isCore_iff {cs core : List Char} : IsCore cs core ↔ core = trim cs := by
  constructor
  · rintro ⟨⟨before, behind, rfl, hbefore, hbehind⟩, hhead, hlast⟩
    cases core with
    | nil =>
        have hstart : trimStart (before ++ behind) = trimStart behind := trimStart_append hbefore
        have hnothing : trimStart (behind ++ []) = trimStart [] := trimStart_append hbehind
        rw [List.append_nil] at hnothing
        rw [List.append_nil, trim, hstart, hnothing]
        rfl
    | cons c rest =>
        have hstart : trimStart (c :: rest ++ behind) = c :: rest ++ behind :=
          trimStart_of_head hhead
        rw [List.append_assoc, trim, trimStart_append hbefore, hstart, trimEnd_append hbehind,
          trimEnd_of_last hlast]
  · rintro rfl
    exact isCore_trim cs

/-- Nothing is left of a text of nothing but blanks, and of no other. -/
theorem trim_eq_nil_iff {cs : List Char} : trim cs = [] ↔ ∀ c ∈ cs, isBlank c = true := by
  constructor
  · intro hnil
    obtain ⟨before, behind, hsplit, hbefore, hbehind⟩ := (isCore_trim cs).split
    rw [hnil, List.append_nil] at hsplit
    subst hsplit
    exact List.forall_mem_append.mpr ⟨hbefore, hbehind⟩
  · intro hall
    exact (isCore_iff.mp ⟨⟨cs, [], by simp, hall, by simp⟩, by simp, by simp⟩).symm

/-- There is nothing to drop around a text without blanks. -/
theorem trim_of_plain {cs : List Char} (h : ∀ c ∈ cs, isBlank c = false) : trim cs = cs := by
  refine (isCore_iff.mp ⟨⟨[], [], ?_, by simp, by simp⟩, ?_, ?_⟩).symm
  · rw [List.nil_append, List.append_nil]
  · exact fun c hc => h c (List.mem_of_head? hc)
  · exact fun c hc => h c (List.mem_of_getLast? hc)

/-- Blanks around a text without blanks are dropped. -/
theorem trim_around {before cs behind : List Char} (hbefore : ∀ c ∈ before, isBlank c = true)
    (hbehind : ∀ c ∈ behind, isBlank c = true) (h : ∀ c ∈ cs, isBlank c = false) :
    trim (before ++ cs ++ behind) = cs := by
  refine (isCore_iff.mp ⟨⟨before, behind, rfl, hbefore, hbehind⟩, ?_, ?_⟩).symm
  · exact fun c hc => h c (List.mem_of_head? hc)
  · exact fun c hc => h c (List.mem_of_getLast? hc)

end OrderDesk.Text
