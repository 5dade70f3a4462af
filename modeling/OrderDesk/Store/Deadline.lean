/-
Deadlines.

Every operation of a store has a deadline.  One that is not ready when the deadline
passes is given up, and the caller learns that it took too long, whatever would have
come of it.  One that is ready at the deadline is still in time.  An operation that is
in time but slow keeps its result, and a warning is written.
-/
import OrderDesk.Action
import OrderDesk.Store.Error

namespace OrderDesk

open OrderDesk.Text

/-- The deadline of an operation, and the span above which it counts as slow. -/
structure QueryPolicy where
  timeout : Duration
  slowThreshold : Duration
  deriving DecidableEq, Repr

/-- Five seconds, and a tenth of a second. -/
def QueryPolicy.usual : QueryPolicy := ⟨.ofMillis 5000, .ofMillis 100⟩

/-- What an operation leaves behind, and how long it took. -/
structure Timed (σ ε α : Type) where
  step : Step σ ε α
  /-- The time until it was ready; nothing when it never was. -/
  elapsed : Option Duration

/-- An operation that is ready at once. -/
def immediately {σ ε α : Type} (x : Action σ ε α) (s : σ) : Timed σ ε α := ⟨x s, some .zero⟩

/-- The entry for an operation that begins. -/
def startedEntry (operation : String) : LogEntry :=
  ⟨.debug, "executing database operation", [("operation", operation)]⟩

/-- The entry for an operation that was given up. -/
def timedOutEntry (policy : QueryPolicy) (operation : String) : LogEntry :=
  ⟨.error, "database operation timed out",
    [("operation", operation), ("timeout_ms", natText policy.timeout.millis)]⟩

/-- The entry for an operation that was slow. -/
def slowEntry (policy : QueryPolicy) (operation : String) (elapsed : Duration) : LogEntry :=
  ⟨.warn, "slow database query detected",
    [("operation", operation), ("elapsed_ms", natText elapsed.millis),
     ("threshold_ms", natText policy.slowThreshold.millis)]⟩

/-- The warning about an operation that was in time but slow. -/
def slowWarning (policy : QueryPolicy) (operation : String) (elapsed : Duration) :
    List LogEntry :=
  if policy.slowThreshold.nanos < elapsed.nanos then [slowEntry policy operation elapsed] else []

/-- Carry out an operation under a deadline. -/
def bounded {σ α : Type} (policy : QueryPolicy) (operation : String)
    (work : σ → Timed σ StoreError α) : Action σ StoreError α := fun s =>
  let timed := work s
  let tooLate : Step σ StoreError α :=
    { ending := .failed (.timeout operation policy.timeout)
      log := startedEntry operation :: timed.step.log ++ [timedOutEntry policy operation]
      state := timed.step.state }
  match timed.elapsed with
  | none => tooLate
  | some elapsed =>
    if policy.timeout.nanos < elapsed.nanos then tooLate
    else
      match timed.step.ending with
      | .aborted => { timed.step with log := startedEntry operation :: timed.step.log }
      | _ =>
        { timed.step with
          log := startedEntry operation :: timed.step.log ++
            slowWarning policy operation elapsed }

/-- What is ready at once is in time and is not slow, whatever the policy. -/
theorem bounded_immediately {σ α : Type} (policy : QueryPolicy) (operation : String)
    (x : Action σ StoreError α) (s : σ) :
    bounded policy operation (immediately x) s =
      { x s with log := startedEntry operation :: (x s).log } := by
  have hzero : ∀ d : Duration, ¬d.nanos < Duration.zero.nanos := fun d => Nat.not_lt_zero _
  cases hx : (x s).ending <;>
    simp [bounded, immediately, slowWarning, hzero, hx]

end OrderDesk
