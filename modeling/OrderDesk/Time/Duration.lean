/-
Spans of time.
-/
namespace OrderDesk

/-- A span of time. -/
structure Duration where
  nanos : Nat
  deriving DecidableEq, Repr

namespace Duration

/-- A millisecond has this many nanoseconds. -/
def nanosPerMilli : Nat := 1000000

/-- The span of this many milliseconds. -/
def ofMillis (n : Nat) : Duration := ⟨n * nanosPerMilli⟩

/-- The number of whole milliseconds in a span. -/
def millis (d : Duration) : Nat := d.nanos / nanosPerMilli

/-- No time at all. -/
def zero : Duration := ⟨0⟩

end Duration

end OrderDesk
