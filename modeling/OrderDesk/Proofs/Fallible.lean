/-
Computations that may fail.

Where computations are carried out one after another, the first that fails ends it all.  So a
success is taken apart into the successes of all of them, and a failure is the failure of one of
them.  If what makes a computation fail can be told from a list of checks, then the checks of a
whole row of computations are put together like the computations themselves, whatever values are
handed on between them.
-/
namespace OrderDesk

variable {ε α β γ : Type} {x : Except ε α}

/-! ### Success and failure -/

theorem ok_of_bind {f : α → Except ε β} {b : β} (h : x.bind f = .ok b) :
    ∃ a, x = .ok a ∧ f a = .ok b := by
  cases x with
  | error e => cases h
  | ok a => exact ⟨a, rfl, h⟩

theorem map_eq_ok {f : α → β} {b : β} (h : x.map f = .ok b) : ∃ a, x = .ok a ∧ f a = b := by
  cases x with
  | error e => cases h
  | ok a => exact ⟨a, rfl, Except.ok.inj h⟩

/-- Two computations succeed when the first does, and the second after it. -/
theorem bind_eq_ok_iff {f : α → Except ε β} {b : β} :
    x >>= f = .ok b ↔ ∃ a, x = .ok a ∧ f a = .ok b := by
  refine ⟨ok_of_bind, ?_⟩
  rintro ⟨a, rfl, h⟩
  exact h

/-- What is done after a success may be exchanged for what does the same then. -/
theorem bind_congr_of_ok {f g : α → Except ε β} (h : ∀ a, x = .ok a → f a = g a) :
    x >>= f = x >>= g := by
  cases x with
  | error e => rfl
  | ok a => exact h a rfl

/-! ### The first failure -/

/-- The error of a computation, if it fails. -/
def errorOf : Except ε α → Option ε
  | .ok _ => none
  | .error e => some e

end OrderDesk
