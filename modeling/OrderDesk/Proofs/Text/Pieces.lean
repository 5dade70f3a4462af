/-
Splitting at a separator.

A text that is split and put together again with separators between the pieces is the
same text, and the pieces are the only ones without a separator in them that make it
up.  So to say what the pieces of a text are is to say what the text is.
-/
import OrderDesk.Text.Ascii

namespace OrderDesk.Text

variable {α : Type} [DecidableEq α] {sep : α}

theorem splitAll_ne_nil (cs : List α) : splitAll sep cs ≠ [] := by
  cases cs with
  | nil => simp [splitAll]
  | cons c rest =>
      show addToPieces sep c (splitAll sep rest) ≠ []
      unfold addToPieces
      split
      · simp
      · split <;> simp

theorem splitAll_eq_splitOn (cs : List α) : splitAll sep cs = cs.splitOn sep := by
  induction cs with
  | nil => rfl
  | cons c rest ih =>
      show addToPieces sep c (splitAll sep rest) = _
      rw [List.splitOn_cons_eq_if_modifyHead, ← ih]
      cases h : splitAll sep rest with
      | nil => exact absurd h (splitAll_ne_nil rest)
      | cons piece pieces =>
          by_cases hc : c = sep
          · simp [addToPieces, hc]
          · simp [addToPieces, hc]

theorem not_mem_splitAll {cs piece : List α} (h : piece ∈ splitAll sep cs) : sep ∉ piece := by
  induction cs generalizing piece with
  | nil =>
      have hp : piece = [] := by simpa [splitAll] using h
      simp [hp]
  | cons c rest ih =>
      have hstep : piece ∈ addToPieces sep c (splitAll sep rest) := h
      cases hr : splitAll sep rest with
      | nil => exact absurd hr (splitAll_ne_nil rest)
      | cons first others =>
          rw [hr] at hstep ih
          by_cases hc : c = sep
          · rw [addToPieces, if_pos hc] at hstep
            rcases List.mem_cons.mp hstep with rfl | hmem
            · exact List.not_mem_nil
            · exact ih hmem
          · rw [addToPieces, if_neg hc] at hstep
            rcases List.mem_cons.mp hstep with rfl | hmem
            · have hfirst := ih (List.mem_cons_self ..)
              simp [Ne.symm hc, hfirst]
            · exact ih (List.mem_cons_of_mem _ hmem)

/-- **The pieces are the only ones there are.** -/
theorem splitAll_eq_iff {cs : List α} {pieces : List (List α)} :
    splitAll sep cs = pieces ↔
      pieces ≠ [] ∧ (∀ piece ∈ pieces, sep ∉ piece) ∧ [sep].intercalate pieces = cs := by
  constructor
  · rintro rfl
    refine ⟨splitAll_ne_nil cs, fun _ => not_mem_splitAll, ?_⟩
    rw [splitAll_eq_splitOn]
    exact List.intercalate_splitOn sep
  · rintro ⟨hne, hfree, rfl⟩
    rw [splitAll_eq_splitOn]
    exact List.splitOn_intercalate sep hfree hne

theorem splitAll_eq_two {cs a b : List α} :
    splitAll sep cs = [a, b] ↔ cs = a ++ sep :: b ∧ sep ∉ a ∧ sep ∉ b := by
  rw [splitAll_eq_iff]
  constructor
  · rintro ⟨_, hfree, rfl⟩
    exact ⟨by simp [List.intercalate], hfree a (by simp), hfree b (by simp)⟩
  · rintro ⟨rfl, ha, hb⟩
    refine ⟨by simp, ?_, by simp [List.intercalate]⟩
    simp [ha, hb]

theorem splitAll_eq_three {cs a b c : List α} :
    splitAll sep cs = [a, b, c] ↔
      cs = a ++ sep :: (b ++ sep :: c) ∧ sep ∉ a ∧ sep ∉ b ∧ sep ∉ c := by
  rw [splitAll_eq_iff]
  constructor
  · rintro ⟨_, hfree, rfl⟩
    refine ⟨by simp [List.intercalate], ?_⟩
    exact ⟨hfree a (by simp), hfree b (by simp), hfree c (by simp)⟩
  · rintro ⟨rfl, ha, hb, hc⟩
    refine ⟨by simp, ?_, by simp [List.intercalate]⟩
    simp [ha, hb, hc]

end OrderDesk.Text
