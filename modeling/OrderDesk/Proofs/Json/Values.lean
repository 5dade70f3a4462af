/-
Reading single values.

What a reader of single values makes of a value does not depend on what stands behind it, and it
says exactly which values are accepted: a string is one that has a text, a choice is its word or
an object that only names it, and `null` is no value.
-/
import OrderDesk.Proofs.Json.Gap

namespace OrderDesk.Json

variable {α : Type}

/-- Whatever stands behind the first lexeme, a string is read from it or it is refused. -/
theorem readText_cons (l : Lexeme) (ls ls' : List Lexeme) :
    readText (l :: ls) = readText (l :: ls') := by
  cases l with
  | text s => cases s <;> rfl
  | _ => rfl

theorem readText_local : Local readText := by
  intro v behind hv
  cases hv with
  | array elements _ => exact readText_cons .openBracket _ _
  | object members _ => exact readText_cons .openBrace _ _
  | _ => exact readText_cons _ _ _

theorem readText_eq_ok {v : List Lexeme} (hv : IsValue v) {s : String} :
    readText v = .ok s ↔ v = [.text (some s)] := by
  constructor
  · intro h
    unfold readText at h
    split at h
    · next s' rest =>
      cases h
      exact hv.unique (.text (some s)) (List.append_nil _)
    · exact absurd h refuse_ne_ok
  · rintro rfl
    rfl

/-- A choice is told by what stands at the head, or behind the name of the first member. -/
theorem readChoice_local {choices : List (String × α)} : Local (readChoice choices) := by
  intro v behind hv
  cases hv with
  | object members hvalues =>
      cases members with
      | nil => rfl
      | cons m others =>
          obtain ⟨name?, value⟩ := m
          have hvalue : IsValue value := hvalues _ List.mem_cons_self
          simp only [objectLexemes, List.map_cons, intercalate_cons, memberLexemes,
            List.cons_append]
          cases name? with
          | none => rfl
          | some word =>
              simp only [readChoice]
              cases choices.lookup word with
              | none => rfl
              | some a =>
                  cases hvalue with
                  | null => cases others <;> rfl
                  | text s => cases s <;> rfl
                  | _ => rfl
  | text s => cases s <;> rfl
  | _ => rfl

/-- **A choice is its word, or an object that only names it.** -/
theorem readChoice_eq_ok {choices : List (String × α)} {v : List Lexeme} (hv : IsValue v) {a : α} :
    readChoice choices v = .ok a ↔ ∃ word, choices.lookup word = some a ∧
      (v = [.text (some word)] ∨ v = objectLexemes [(some word, [.null])]) := by
  have hself : v ++ [] = v := List.append_nil v
  constructor
  · intro h
    unfold readChoice at h
    simp only at h
    split at h
    · next word rest =>
      split at h
      · next b hb =>
        cases h
        exact ⟨word, hb, Or.inl (hv.unique (.text (some word)) hself)⟩
      · cases h
    · next word rest =>
      split at h
      · cases h
      · next b rest hchoose =>
        cases h
        split at hchoose
        · next b hb =>
          cases hchoose
          have hmember : IsValue (objectLexemes [(some word, [.null])]) :=
            .object _ (by simpa using IsValue.null)
          exact ⟨word, hb, Or.inr (hv.unique hmember hself)⟩
        · cases hchoose
      · cases h
      · split at h
        · next hrefuse => exact absurd hrefuse refuse_ne_ok
        · cases h
      · cases h
    · exact absurd h refuse_ne_ok
    · cases h
  · rintro ⟨word, hword, rfl | rfl⟩ <;> simp [readChoice, hword, objectLexemes, memberLexemes]

theorem readOptional_local {read : Reader α} (h : Local read) : Local (readOptional read) := by
  intro v behind hv
  have hsome := h v behind hv
  cases hv with
  | null => rfl
  | _ => exact congrArg (Except.map some) hsome

/-- `null` is no value; everything else is read as one. -/
theorem readOptional_eq_ok {read : Reader α} {v : List Lexeme} (hv : IsValue v) {got : Option α} :
    readOptional read v = .ok got ↔ (v = [.null] ∧ got = none) ∨
      v ≠ [.null] ∧ ∃ a, read v = .ok a ∧ got = some a := by
  by_cases hnull : v = [.null]
  · subst hnull
    simp [readOptional, eq_comm]
  · have hsome : readOptional read v = (read v).map some := by
      cases hv with
      | null => exact absurd rfl hnull
      | _ => rfl
    rw [hsome]
    cases read v <;> simp [hnull, Except.map, eq_comm]

end OrderDesk.Json
