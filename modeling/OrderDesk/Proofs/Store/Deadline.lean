/-
Deadlines are kept.

An operation that comes to an end has a result, and it took some time.  Two things are asked
about the time.  Was the operation in time?  This alone decides what its caller gets: the result
as it is, or the report of a timeout, in which the result has no part.  Was it slow?  This only
matters to those who read the log, and only of an operation that was in time.

The deadline and the threshold of slowness may be anything, also in the other order than usual,
and either may be zero.  An operation that is ready at the very deadline is in time, and one that
takes as long as the threshold is not slow.
-/
import OrderDesk.Proofs.Action

namespace OrderDesk

variable {σ α : Type}

/-- What an operation that comes to an end leaves behind, and how long it took. -/
structure Finished (σ α : Type) where
  result : Except StoreError α
  elapsed : Duration
  /-- What the operation itself has written. -/
  written : List LogEntry
  state : σ

/-- The same with an ending in place of the result. -/
def Finished.timed (f : Finished σ α) : Timed σ StoreError α :=
  ⟨⟨.ofExcept f.result, f.written, f.state⟩, some f.elapsed⟩

namespace QueryPolicy

/-- Ready at the deadline or before it. -/
def InTime (policy : QueryPolicy) (elapsed : Duration) : Prop :=
  elapsed.nanos ≤ policy.timeout.nanos

/-- Longer than the threshold of slowness. -/
def Slow (policy : QueryPolicy) (elapsed : Duration) : Prop :=
  policy.slowThreshold.nanos < elapsed.nanos

instance (policy : QueryPolicy) (elapsed : Duration) : Decidable (policy.InTime elapsed) :=
  inferInstanceAs (Decidable (_ ≤ _))

instance (policy : QueryPolicy) (elapsed : Duration) : Decidable (policy.Slow elapsed) :=
  inferInstanceAs (Decidable (_ < _))

/-- What the caller gets. -/
def verdict (policy : QueryPolicy) (operation : String) (f : Finished σ α) :
    Ending StoreError α :=
  if policy.InTime f.elapsed then .ofExcept f.result
  else .failed (.timeout operation policy.timeout)

/-- What is written about the time that an operation took. -/
def remark (policy : QueryPolicy) (operation : String) (elapsed : Duration) : List LogEntry :=
  if policy.InTime elapsed then slowWarning policy operation elapsed
  else [timedOutEntry policy operation]

end QueryPolicy

/-! ### What becomes of an operation -/

/-- The caller gets the verdict, and a remark about the time stands at the end of the log. -/
theorem bounded_finished (policy : QueryPolicy) (operation : String) (work : σ → Finished σ α)
    (s : σ) :
    bounded policy operation (fun s => (work s).timed) s =
      ⟨policy.verdict operation (work s),
        startedEntry operation :: (work s).written ++ policy.remark operation (work s).elapsed,
        (work s).state⟩ := by
  unfold bounded QueryPolicy.verdict QueryPolicy.remark
  by_cases htime : policy.InTime (work s).elapsed
  · have hlate : ¬policy.timeout.nanos < (work s).elapsed.nanos := Nat.not_lt_of_le htime
    simp only [Finished.timed, if_neg hlate, if_pos htime]
    cases (work s).result <;> rfl
  · have hlate : policy.timeout.nanos < (work s).elapsed.nanos := Nat.lt_of_not_le htime
    simp only [Finished.timed, if_pos hlate, if_neg htime]

/-! ### What is written -/

namespace LogEntry

/-- A warning about an operation that was slow. -/
def isSlowWarning (e : LogEntry) : Bool :=
  e.level == .warn && e.message == "slow database query detected"

/-- A report of an operation that was given up. -/
def isTimeoutReport (e : LogEntry) : Bool :=
  e.level == .error && e.message == "database operation timed out"

end LogEntry

theorem slowWarning_eq (policy : QueryPolicy) (operation : String) (elapsed : Duration) :
    slowWarning policy operation elapsed =
      if policy.Slow elapsed then [slowEntry policy operation elapsed] else [] := rfl

/-- There is one remark at most. -/
theorem length_remark_le (policy : QueryPolicy) (operation : String) (elapsed : Duration) :
    (policy.remark operation elapsed).length ≤ 1 := by
  unfold QueryPolicy.remark
  rw [slowWarning_eq]
  split
  · split
    · exact Nat.le_refl 1
    · exact Nat.zero_le 1
  · exact Nat.le_refl 1

/-- The warnings in a remark: one if the operation was in time but slow. -/
theorem filter_isSlowWarning (policy : QueryPolicy) (operation : String) (elapsed : Duration) :
    (policy.remark operation elapsed).filter LogEntry.isSlowWarning =
      if policy.InTime elapsed ∧ policy.Slow elapsed then [slowEntry policy operation elapsed]
      else [] := by
  rw [QueryPolicy.remark, slowWarning_eq]
  by_cases htime : policy.InTime elapsed
  · by_cases hslow : policy.Slow elapsed
    · rw [if_pos htime, if_pos hslow, if_pos ⟨htime, hslow⟩]
      rfl
    · rw [if_pos htime, if_neg hslow, if_neg fun h => hslow h.2]
      rfl
  · rw [if_neg htime, if_neg fun h => htime h.1]
    rfl

/-- The reports in a remark: one if the operation was late. -/
theorem filter_isTimeoutReport (policy : QueryPolicy) (operation : String) (elapsed : Duration) :
    (policy.remark operation elapsed).filter LogEntry.isTimeoutReport =
      if policy.InTime elapsed then [] else [timedOutEntry policy operation] := by
  rw [QueryPolicy.remark, slowWarning_eq]
  by_cases htime : policy.InTime elapsed
  · rw [if_pos htime, if_pos htime]
    split <;> rfl
  · rw [if_neg htime, if_neg htime]
    rfl

/-- **Deadlines are kept.**  An operation that is in time has its result, whatever the result is;
one that is late has a timeout with its name and the deadline, whatever the result would have
been.  Behind what the operation itself has written stands one warning if it was in time but slow,
one report if it was late, and never both.  The threshold of slowness has no part in what the
caller gets and in what is left behind. -/
theorem deadlines_are_kept (policy : QueryPolicy) (operation : String)
    (work : σ → Finished σ α) (s : σ) :
    let run (p : QueryPolicy) := bounded p operation (fun s => (work s).timed) s
    let elapsed := (work s).elapsed
    (policy.InTime elapsed → (run policy).ending = .ofExcept (work s).result) ∧
    (¬policy.InTime elapsed → (run policy).ending = .failed (.timeout operation policy.timeout)) ∧
    (∃ remark, (run policy).log = startedEntry operation :: (work s).written ++ remark ∧
      remark.filter LogEntry.isSlowWarning =
        (if policy.InTime elapsed ∧ policy.Slow elapsed then [slowEntry policy operation elapsed]
        else []) ∧
      remark.filter LogEntry.isTimeoutReport =
        (if policy.InTime elapsed then [] else [timedOutEntry policy operation]) ∧
      remark.length ≤ 1) ∧
    ∀ threshold, (run { policy with slowThreshold := threshold }).ending = (run policy).ending ∧
      (run { policy with slowThreshold := threshold }).state = (run policy).state := by
  intro run elapsed
  have hrun : ∀ p, run p = _ := fun p => bounded_finished p operation work s
  refine ⟨?_, ?_, ⟨policy.remark operation elapsed, ?_, ?_, ?_, ?_⟩, ?_⟩
  · intro htime
    rw [hrun, QueryPolicy.verdict, if_pos htime]
  · intro hlate
    rw [hrun, QueryPolicy.verdict, if_neg hlate]
  · rw [hrun]
  · exact filter_isSlowWarning policy operation elapsed
  · exact filter_isTimeoutReport policy operation elapsed
  · exact length_remark_le policy operation elapsed
  · intro threshold
    rw [hrun, hrun]
    exact ⟨rfl, rfl⟩

/-- At a deadline of no time at all, what is ready at once is in time and not slow. -/
example (result : Except StoreError α) (s : σ) :
    bounded ⟨.zero, .zero⟩ "orders.insert" (fun s => (Finished.mk result .zero [] s).timed) s =
      ⟨.ofExcept result, [startedEntry "orders.insert"], s⟩ :=
  bounded_finished ⟨.zero, .zero⟩ "orders.insert" (fun s => ⟨result, .zero, [], s⟩) s

end OrderDesk
