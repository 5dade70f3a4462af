/-
What is true of an action when it is true of its parts.

Two kinds of facts about actions are built up from the parts of an action, and never
by looking at the whole.

  * `Respects R` is about two runs: from two states that `R` relates, the action ends
    in the same way, writes the same log and leaves two states that `R` relates again.
    Whoever only sees endings and logs cannot tell the two states apart.
  * `Keeps I view` is about one run: from a state that satisfies `I`, the action leads
    to a state that satisfies `I` and has the same view.

The rules follow the ways in which actions are put together, one rule for each way.  What
has all of these rules is `Closed`, and a closed property of an action follows from the
same property of the operations that the action uses.
-/
import OrderDesk.Store.Basic
import OrderDesk.Store.Deadline

namespace OrderDesk

variable {σ τ ε ε' α β γ : Type}

/-- An ending with another value. -/
def Ending.map (f : α → β) : Ending ε α → Ending ε β
  | .done a => .done (f a)
  | .failed e => .failed e
  | .aborted => .aborted

theorem Ending.map_map (g : β → γ) (f : α → β) (x : Ending ε α) :
    (x.map f).map g = x.map (g ∘ f) := by
  cases x <;> rfl

/-- An ending with another error. -/
def Ending.mapError (f : ε → ε') : Ending ε α → Ending ε' α
  | .done a => .done a
  | .failed e => .failed (f e)
  | .aborted => .aborted

theorem Ending.mapError_map (f : ε → ε') (g : α → β) (x : Ending ε α) :
    (x.map g).mapError f = (x.mapError f).map g := by
  cases x <;> rfl

theorem Ending.map_eq_done {f : α → β} {x : Ending ε α} {b : β} :
    x.map f = .done b ↔ ∃ a, x = .done a ∧ f a = b := by
  cases x <;> simp [Ending.map]

theorem Ending.mapError_eq_done {f : ε → ε'} {x : Ending ε α} {a : α} :
    x.mapError f = .done a ↔ x = .done a := by
  cases x <;> simp [Ending.mapError]

/-- How a computation ends. -/
def Ending.ofExcept : Except ε α → Ending ε α
  | .ok a => .done a
  | .error e => .failed e

theorem Ending.map_ofExcept (f : α → β) (r : Except ε α) :
    (ofExcept r).map f = ofExcept (r.map f) := by
  cases r <;> rfl

namespace Action

/-! ### Endings -/

@[simp] theorem ending_done (a : α) (s : σ) :
    (done a s : Step σ ε α).ending = .done a := rfl

@[simp] theorem log_done (a : α) (s : σ) : (done a s : Step σ ε α).log = [] := rfl

@[simp] theorem state_done (a : α) (s : σ) : (done a s : Step σ ε α).state = s := rfl

@[simp] theorem ending_fail (e : ε) (s : σ) :
    (fail e s : Step σ ε α).ending = .failed e := rfl

@[simp] theorem state_fail (e : ε) (s : σ) : (fail e s : Step σ ε α).state = s := rfl

@[simp] theorem ending_abort (s : σ) : (abort s : Step σ ε α).ending = .aborted := rfl

@[simp] theorem log_abort (s : σ) : (abort s : Step σ ε α).log = [] := rfl

@[simp] theorem state_abort (s : σ) : (abort s : Step σ ε α).state = s := rfl

theorem ending_ofExcept (r : Except ε α) (s : σ) :
    (ofExcept r s : Step σ ε α).ending = .ofExcept r := by
  cases r <;> rfl

theorem state_ofExcept (r : Except ε α) (s : σ) : (ofExcept r s : Step σ ε α).state = s := by
  cases r <;> rfl

/-! ### Going on -/

theorem bind_of_done {x : Action σ ε α} {f : α → Action σ ε β} {s : σ} {a : α}
    (h : (x s).ending = .done a) :
    (x >>= f) s =
      ⟨(f a (x s).state).ending, (x s).log ++ (f a (x s).state).log,
        (f a (x s).state).state⟩ := by
  show andThen x f s = _
  simp only [andThen, h]

theorem bind_of_failed {x : Action σ ε α} {f : α → Action σ ε β} {s : σ} {e : ε}
    (h : (x s).ending = .failed e) : (x >>= f) s = ⟨.failed e, (x s).log, (x s).state⟩ := by
  show andThen x f s = _
  simp only [andThen, h]

theorem bind_of_aborted {x : Action σ ε α} {f : α → Action σ ε β} {s : σ}
    (h : (x s).ending = .aborted) : (x >>= f) s = ⟨.aborted, (x s).log, (x s).state⟩ := by
  show andThen x f s = _
  simp only [andThen, h]

/-- What goes on to a value has come to one before. -/
theorem done_of_bind {x : Action σ ε α} {f : α → Action σ ε β} {s : σ} {b : β}
    (h : ((x >>= f) s).ending = .done b) :
    ∃ a, (x s).ending = .done a ∧ (f a (x s).state).ending = .done b := by
  cases hx : (x s).ending with
  | done a =>
      rw [bind_of_done hx] at h
      exact ⟨a, rfl, h⟩
  | failed e =>
      rw [bind_of_failed hx] at h
      cases h
  | aborted =>
      rw [bind_of_aborted hx] at h
      cases h

theorem map_eq (f : α → β) (x : Action σ ε α) :
    f <$> x = fun s => ⟨(x s).ending.map f, (x s).log, (x s).state⟩ := by
  funext s
  show (x >>= fun a => pure (f a)) s = _
  cases h : (x s).ending with
  | done a =>
      rw [bind_of_done h]
      show Step.mk _ ((x s).log ++ []) _ = _
      rw [List.append_nil]
      rfl
  | failed e => rw [bind_of_failed h]; rfl
  | aborted => rw [bind_of_aborted h]; rfl

theorem ending_map (f : α → β) (x : Action σ ε α) (s : σ) :
    ((f <$> x) s).ending = (x s).ending.map f := by
  rw [map_eq]

theorem state_map (f : α → β) (x : Action σ ε α) (s : σ) :
    ((f <$> x) s).state = (x s).state := by
  rw [map_eq]

theorem mapError_eq (f : ε → ε') (x : Action σ ε α) :
    x.mapError f = fun s => ⟨(x s).ending.mapError f, (x s).log, (x s).state⟩ := by
  funext s
  simp only [mapError]
  cases (x s).ending <;> rfl

theorem ending_mapError (f : ε → ε') (x : Action σ ε α) (s : σ) :
    ((x.mapError f) s).ending = (x s).ending.mapError f := by
  rw [mapError_eq]

theorem state_mapError (f : ε → ε') (x : Action σ ε α) (s : σ) :
    ((x.mapError f) s).state = (x s).state := rfl

theorem map_mapError_map (g : β → γ) (f : α → β) (h : ε → ε') (x : Action σ ε α) :
    g <$> (f <$> x).mapError h = (fun a => g (f a)) <$> x.mapError h := by
  simp only [map_eq]
  funext s
  simp only [mapError]
  cases (x s).ending <;> rfl

theorem map_onPart (f : α → β) (get : τ → σ) (set : σ → τ → τ) (x : Action σ ε α) :
    f <$> x.onPart get set = (f <$> x).onPart get set := by
  simp only [map_eq]
  rfl

theorem done_bind (a : α) (f : α → Action σ ε β) : (done a >>= f) = f a := rfl

theorem fail_bind (e : ε) (f : α → Action σ ε β) : (fail e >>= f) = fail e := rfl

theorem attempt_of_done {x : Action σ ε α} {s : σ} {a : α} (h : (x s).ending = .done a) :
    ((x.attempt : Action σ ε' (Except ε α)) s).ending = .done (.ok a) := by
  simp only [attempt, h]

theorem attempt_of_failed {x : Action σ ε α} {s : σ} {e : ε} (h : (x s).ending = .failed e) :
    ((x.attempt : Action σ ε' (Except ε α)) s).ending = .done (.error e) := by
  simp only [attempt, h]

theorem attempt_of_aborted {x : Action σ ε α} {s : σ} (h : (x s).ending = .aborted) :
    ((x.attempt : Action σ ε' (Except ε α)) s).ending = .aborted := by
  simp only [attempt, h]

/-- What is written down when something has been done. -/
def announced (entry : α → LogEntry) : Ending ε α → List LogEntry
  | .done a => [entry a]
  | .failed _ | .aborted => []

theorem announced_mapError (entry : α → LogEntry) (f : ε → ε') (x : Ending ε α) :
    announced entry (x.mapError f) = announced entry x := by
  cases x <;> rfl

/-- Writing down what has been done changes neither how it ended nor where it has led. -/
theorem noted (x : Action σ ε α) (entry : α → LogEntry) (s : σ) :
    (x >>= fun a => note (entry a) >>= fun _ => pure a) s =
      ⟨(x s).ending, (x s).log ++ announced entry (x s).ending, (x s).state⟩ := by
  cases h : (x s).ending with
  | done a => rw [bind_of_done h]; rfl
  | failed e => rw [bind_of_failed h, announced, List.append_nil]
  | aborted => rw [bind_of_aborted h, announced, List.append_nil]

/-- What is done, written down, and reported as another error when it fails. -/
theorem reported (x : Action σ ε α) (f : ε → ε') (entry : α → LogEntry) (s : σ) :
    (x.mapError f >>= fun a => note (entry a) >>= fun _ => pure a) s =
      ⟨(x s).ending.mapError f, (x s).log ++ announced entry (x s).ending, (x s).state⟩ := by
  rw [noted, mapError_eq, announced_mapError]

/-- What is ready in time ends as it would without a deadline. -/
theorem bounded_in_time {policy : QueryPolicy} {work : σ → Timed σ StoreError α} {s : σ}
    {step : Step σ StoreError α} {elapsed : Duration} (h : work s = ⟨step, some elapsed⟩)
    (hle : elapsed.nanos ≤ policy.timeout.nanos) (operation : String) :
    (bounded policy operation work s).ending = step.ending ∧
      (bounded policy operation work s).state = step.state := by
  simp only [bounded, h, if_neg (Nat.not_lt_of_le hle)]
  cases step.ending <;> exact ⟨rfl, rfl⟩

/-- With a deadline or without, work leads to the same state, and it ends as it would have or too
late. -/
theorem bounded_cases (policy : QueryPolicy) (operation : String)
    (work : σ → Timed σ StoreError α) (s : σ) :
    ((bounded policy operation work s).ending = (work s).step.ending ∨
        (bounded policy operation work s).ending = .failed (.timeout operation policy.timeout)) ∧
      (bounded policy operation work s).state = (work s).step.state := by
  unfold bounded
  dsimp only
  split
  · exact ⟨.inr rfl, rfl⟩
  · split
    · exact ⟨.inr rfl, rfl⟩
    · split <;> exact ⟨.inl rfl, rfl⟩

/-! ### Properties that follow the structure -/

/-- A property of actions that holds of an action whenever it holds of its parts. -/
structure Closed (P : ∀ {ε α : Type}, Action σ ε α → Prop) : Prop where
  done : ∀ {ε α : Type} (a : α), P (Action.done a : Action σ ε α)
  fail : ∀ {ε α : Type} (e : ε), P (Action.fail e : Action σ ε α)
  abort : ∀ {ε α : Type}, P (Action.abort : Action σ ε α)
  note : ∀ {ε : Type} (entry : LogEntry), P (Action.note entry : Action σ ε Unit)
  bind : ∀ {ε α β : Type} {x : Action σ ε α} {f : α → Action σ ε β},
    P x → (∀ a, P (f a)) → P (x >>= f)
  mapError : ∀ {ε ε' α : Type} {x : Action σ ε α} {f : ε → ε'}, P x → P (x.mapError f)
  attempt : ∀ {ε ε' α : Type} {x : Action σ ε α},
    P x → P (x.attempt : Action σ ε' (Except ε α))

theorem Closed.ofExcept {P : ∀ {ε α : Type}, Action σ ε α → Prop} (h : Closed P)
    (r : Except ε α) : P (Action.ofExcept r) := by
  cases r with
  | ok a => exact h.done a
  | error e => exact h.fail e

/-! ### Two runs -/

/-- Related states are told apart neither by how the action ends nor by what it writes, and are
related again afterwards. -/
def Respects (R : σ → σ → Prop) (x : Action σ ε α) : Prop :=
  ∀ s t, R s t → (x s).ending = (x t).ending ∧ (x s).log = (x t).log ∧ R (x s).state (x t).state

namespace Respects

variable {R : σ → σ → Prop} {x : Action σ ε α}

theorem done (a : α) : Respects R (Action.done a : Action σ ε α) :=
  fun _ _ h => ⟨rfl, rfl, h⟩

theorem fail (e : ε) : Respects R (Action.fail e : Action σ ε α) :=
  fun _ _ h => ⟨rfl, rfl, h⟩

theorem abort : Respects R (Action.abort : Action σ ε α) :=
  fun _ _ h => ⟨rfl, rfl, h⟩

theorem note (entry : LogEntry) : Respects R (Action.note entry : Action σ ε Unit) :=
  fun _ _ h => ⟨rfl, rfl, h⟩

theorem bind {f : α → Action σ ε β} (hx : Respects R x) (hf : ∀ a, Respects R (f a)) :
    Respects R (x >>= f) := by
  intro s t hst
  obtain ⟨hend, hlog, hstate⟩ := hx s t hst
  cases h : (x s).ending with
  | failed e =>
      rw [bind_of_failed h, bind_of_failed (hend ▸ h)]
      exact ⟨rfl, hlog, hstate⟩
  | aborted =>
      rw [bind_of_aborted h, bind_of_aborted (hend ▸ h)]
      exact ⟨rfl, hlog, hstate⟩
  | done a =>
      rw [bind_of_done h, bind_of_done (hend ▸ h)]
      obtain ⟨hend', hlog', hstate'⟩ := hf a _ _ hstate
      exact ⟨hend', by simp only [hlog, hlog'], hstate'⟩

theorem mapError {f : ε → ε'} (hx : Respects R x) : Respects R (x.mapError f) := by
  intro s t hst
  obtain ⟨hend, hlog, hstate⟩ := hx s t hst
  exact ⟨by simp only [Action.mapError, hend], hlog, hstate⟩

theorem attempt (hx : Respects R x) : Respects R (x.attempt : Action σ ε' (Except ε α)) := by
  intro s t hst
  obtain ⟨hend, hlog, hstate⟩ := hx s t hst
  exact ⟨by simp only [Action.attempt, hend], hlog, hstate⟩

/-- What respects a relation on a part respects every relation on the whole that looks at the
part through it. -/
theorem onPart {Q : σ → σ → Prop} {R : τ → τ → Prop} {get : τ → σ} {set : σ → τ → τ}
    (hget : ∀ s t, R s t → Q (get s) (get t))
    (hset : ∀ s t p q, R s t → Q p q → R (set p s) (set q t)) (hx : Respects Q x) :
    Respects R (x.onPart get set) := by
  intro s t hst
  obtain ⟨hend, hlog, hstate⟩ := hx _ _ (hget s t hst)
  exact ⟨hend, hlog, hset s t _ _ hst hstate⟩

theorem bounded {R : σ → σ → Prop} {x : Action σ StoreError α} (policy : QueryPolicy)
    (operation : String) (hx : Respects R x) :
    Respects R (bounded policy operation (immediately x)) := by
  intro s t hst
  obtain ⟨hend, hlog, hstate⟩ := hx s t hst
  rw [bounded_immediately, bounded_immediately]
  exact ⟨hend, by simp only [hlog], hstate⟩

theorem closed (R : σ → σ → Prop) : Closed fun {ε α} (x : Action σ ε α) => Respects R x :=
  ⟨done, fail, abort, note, bind, mapError, attempt⟩

end Respects

/-! ### One run -/

/-- The action leaves the view of a state alone, as long as the state satisfies `I`, and the
state still does so afterwards. -/
def Keeps (I : σ → Prop) (view : σ → γ) (x : Action σ ε α) : Prop :=
  ∀ s, I s → I (x s).state ∧ view (x s).state = view s

namespace Keeps

variable {I : σ → Prop} {view : σ → γ} {x : Action σ ε α}

theorem done (a : α) : Keeps I view (Action.done a : Action σ ε α) := fun _ h => ⟨h, rfl⟩

theorem fail (e : ε) : Keeps I view (Action.fail e : Action σ ε α) := fun _ h => ⟨h, rfl⟩

theorem abort : Keeps I view (Action.abort : Action σ ε α) := fun _ h => ⟨h, rfl⟩

theorem note (entry : LogEntry) : Keeps I view (Action.note entry : Action σ ε Unit) :=
  fun _ h => ⟨h, rfl⟩

theorem bind {f : α → Action σ ε β} (hx : Keeps I view x) (hf : ∀ a, Keeps I view (f a)) :
    Keeps I view (x >>= f) := by
  intro s hs
  obtain ⟨hI, hview⟩ := hx s hs
  cases h : (x s).ending with
  | failed e => rw [bind_of_failed h]; exact ⟨hI, hview⟩
  | aborted => rw [bind_of_aborted h]; exact ⟨hI, hview⟩
  | done a =>
      rw [bind_of_done h]
      obtain ⟨hI', hview'⟩ := hf a _ hI
      exact ⟨hI', hview'.trans hview⟩

theorem mapError {f : ε → ε'} (hx : Keeps I view x) : Keeps I view (x.mapError f) := hx

theorem attempt (hx : Keeps I view x) : Keeps I view (x.attempt : Action σ ε' (Except ε α)) := hx

/-- What keeps the view of a part keeps every view of the whole that looks at the part
through it. -/
theorem onPart {J : τ → Prop} {look : τ → β} {get : τ → σ} {set : σ → τ → τ}
    (hget : ∀ t, J t → I (get t))
    (hset : ∀ t p, J t → I p → view p = view (get t) → J (set p t) ∧ look (set p t) = look t)
    (hx : Keeps I view x) : Keeps J look (x.onPart get set) := by
  intro t ht
  obtain ⟨hI, hview⟩ := hx _ (hget t ht)
  exact hset t _ ht hI hview

theorem bounded {I : σ → Prop} {view : σ → γ} {x : Action σ StoreError α} (policy : QueryPolicy)
    (operation : String) (hx : Keeps I view x) :
    Keeps I view (bounded policy operation (immediately x)) := by
  intro s hs
  rw [bounded_immediately]
  exact hx s hs

theorem closed (I : σ → Prop) (view : σ → γ) :
    Closed fun {ε α} (x : Action σ ε α) => Keeps I view x :=
  ⟨done, fail, abort, note, bind, mapError, attempt⟩

end Keeps

end Action

end OrderDesk
