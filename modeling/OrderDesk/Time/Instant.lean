/-
Points in time.

An instant is a number of whole seconds since the beginning of 1970 and a part of a
second in nanoseconds.  The last second of a minute may be a leap second: then the
part counts on to the end of a second second.  Instants reach from the year -262143
to the year 262142, and a sum that would lie beyond has no value.
-/
namespace OrderDesk

namespace Instant

/-- The first second of the year -262143. -/
def minSecond : Int := -8334601228800

/-- The last second of the year 262142. -/
def maxSecond : Int := 8210266876799

/-- A second has this many nanoseconds. -/
def nanosPerSecond : Nat := 1000000000

/-- The two numbers make up an instant. -/
def Valid (seconds : Int) (nanos : Nat) : Prop :=
  minSecond ≤ seconds ∧ seconds ≤ maxSecond ∧
    (nanos < nanosPerSecond ∨ (nanos < 2 * nanosPerSecond ∧ seconds % 60 = 59))

instance (seconds : Int) (nanos : Nat) : Decidable (Valid seconds nanos) := by
  unfold Valid; infer_instance

end Instant

/-- A point in time. -/
structure Instant where
  /-- Whole seconds since 1970-01-01T00:00:00Z, rounded down. -/
  seconds : Int
  /-- Nanoseconds since the start of the second. -/
  nanos : Nat
  valid : Instant.Valid seconds nanos
  deriving DecidableEq, Repr

namespace Instant

/-- The instant with these parts, if there is one. -/
def ofParts? (seconds : Int) (nanos : Nat) : Option Instant :=
  if h : Valid seconds nanos then some ⟨seconds, nanos, h⟩ else none

/-- The beginning of 1970. -/
def epoch : Instant := ⟨0, 0, by decide⟩

/-- The instant lies in a leap second. -/
def isLeap (t : Instant) : Bool := nanosPerSecond ≤ t.nanos

/-- One instant is not later than another. -/
def le (a b : Instant) : Bool :=
  a.seconds < b.seconds || (a.seconds == b.seconds && a.nanos ≤ b.nanos)

/-- The later of two instants. -/
def latest (a b : Instant) : Instant := if a.le b then b else a

/-- The instant a span later, if there is one.  A span that ends within the leap second it
starts in stays there; any other span counts the leap second as part of the second before. -/
def after? (t : Instant) (seconds nanos : Nat) : Option Instant :=
  if t.isLeap ∧ seconds = 0 ∧ t.nanos + nanos < 2 * nanosPerSecond then
    ofParts? t.seconds (t.nanos + nanos)
  else
    let part := (if t.isLeap then t.nanos - nanosPerSecond else t.nanos) + nanos
    ofParts? (t.seconds + seconds + part / nanosPerSecond) (part % nanosPerSecond)

/-- The next microsecond. -/
def nextMicrosecond? (t : Instant) : Option Instant := t.after? 0 1000

end Instant

end OrderDesk
