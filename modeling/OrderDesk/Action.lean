/-
Steps of the service.

An action works on a state, writes log entries and ends in one of three ways: with a
value, with an error, or not at all.  The last happens when a time is needed that
cannot be expressed: the work is given up where it stands, and what it has changed so
far stays changed.  An error does not undo anything either; whoever wants nothing to
be changed has to fail before changing it.
-/
namespace OrderDesk

/-- How important a log entry is. -/
inductive Level where
  | debug
  | info
  | warn
  | error
  deriving DecidableEq, Repr

/-- The name of a level. -/
def Level.text : Level → String
  | .debug => "DEBUG"
  | .info => "INFO"
  | .warn => "WARN"
  | .error => "ERROR"

/-- One line of the log: a message and the values that belong to it. -/
structure LogEntry where
  level : Level
  message : String
  fields : List (String × String)
  deriving DecidableEq, Repr

/-- How an action ends. -/
inductive Ending (ε α : Type) where
  | done (value : α)
  | failed (error : ε)
  /-- Given up on the way. -/
  | aborted
  deriving DecidableEq, Repr

/-- What an action leaves behind. -/
structure Step (σ ε α : Type) where
  ending : Ending ε α
  log : List LogEntry
  state : σ
  deriving DecidableEq, Repr

/-- Something that is done to a state. -/
def Action (σ ε α : Type) := σ → Step σ ε α

namespace Action

variable {σ τ ε ε' α β : Type}

/-- Do nothing. -/
def done (a : α) : Action σ ε α := fun s => ⟨.done a, [], s⟩

/-- Fail without doing anything. -/
def fail (e : ε) : Action σ ε α := fun s => ⟨.failed e, [], s⟩

/-- Give up. -/
def abort : Action σ ε α := fun s => ⟨.aborted, [], s⟩

/-- Go on with the value of the first action, if it has one. -/
def andThen (x : Action σ ε α) (f : α → Action σ ε β) : Action σ ε β := fun s =>
  let first := x s
  match first.ending with
  | .failed e => ⟨.failed e, first.log, first.state⟩
  | .aborted => ⟨.aborted, first.log, first.state⟩
  | .done a =>
    let second := f a first.state
    ⟨second.ending, first.log ++ second.log, second.state⟩

instance : Monad (Action σ ε) where
  pure := done
  bind := andThen

/-- Write a log entry. -/
def note (entry : LogEntry) : Action σ ε Unit := fun s => ⟨.done (), [entry], s⟩

/-- The value of a computation, or its error. -/
def ofExcept : Except ε α → Action σ ε α
  | .ok a => done a
  | .error e => fail e

/-- Report another error in place of the one that occurred. -/
def mapError (f : ε → ε') (x : Action σ ε α) : Action σ ε' α := fun s =>
  let step := x s
  let ending := match step.ending with
    | .done a => .done a
    | .failed e => .failed (f e)
    | .aborted => .aborted
  ⟨ending, step.log, step.state⟩

/-- Go on after an error too, with the error as the value. -/
def attempt (x : Action σ ε α) : Action σ ε' (Except ε α) := fun s =>
  let step := x s
  let ending := match step.ending with
    | .done a => .done (.ok a)
    | .failed e => .done (.error e)
    | .aborted => .aborted
  ⟨ending, step.log, step.state⟩

/-- Act on a part of a larger state. -/
def onPart (get : τ → σ) (set : σ → τ → τ) (x : Action σ ε α) : Action τ ε α := fun t =>
  let step := x (get t)
  ⟨step.ending, step.log, set step.state t⟩

end Action

end OrderDesk
