/-!
Lengths of time and moments, with the bounds within which they can be added.
-/
namespace ModelDepot

/-- A length of time in nanoseconds. -/
structure Duration where
  nanos : Nat
  deriving DecidableEq, Repr

namespace Duration

def nanosPerSecond : Nat := 1000000000

/-- The longest time: the largest whole second of 64 bits, and all but a nanosecond of the next. -/
def longest : Duration := ⟨UInt64.size * nanosPerSecond - 1⟩

def zero : Duration := ⟨0⟩
def ofSeconds (n : Nat) : Duration := ⟨n * nanosPerSecond⟩
def ofMillis (n : Nat) : Duration := ⟨n * 1000000⟩

def seconds (d : Duration) : Nat := d.nanos / nanosPerSecond
def subsecond (d : Duration) : Nat := d.nanos % nanosPerSecond
def millis (d : Duration) : Nat := d.nanos / 1000000

/-- The sum, unless it is longer than the longest time. -/
def add? (a b : Duration) : Option Duration :=
  if a.nanos + b.nanos ≤ longest.nanos then some ⟨a.nanos + b.nanos⟩ else none

/-- A multiple, which is the longest time when it would be longer. -/
def times (d : Duration) (n : Nat) : Duration := ⟨min (d.nanos * n) longest.nanos⟩

instance : LT Duration := ⟨fun a b => a.nanos < b.nanos⟩
instance : LE Duration := ⟨fun a b => a.nanos ≤ b.nanos⟩
instance (a b : Duration) : Decidable (a < b) := inferInstanceAs (Decidable (a.nanos < b.nanos))
instance (a b : Duration) : Decidable (a ≤ b) := inferInstanceAs (Decidable (a.nanos ≤ b.nanos))

end Duration

/-- A reading of the monotonic clock, in nanoseconds. -/
structure Instant where
  nanos : Int
  deriving DecidableEq, Repr

namespace Instant

/-- The moments whose whole seconds have 64 bits with a sign. -/
def latest : Instant := ⟨0x8000000000000000 * (Duration.nanosPerSecond : Int) - 1⟩

/-- The moment after a length of time, unless it is beyond the latest one. -/
def after? (moment : Instant) (wait : Duration) : Option Instant :=
  let sum := moment.nanos + wait.nanos
  if sum ≤ latest.nanos then some ⟨sum⟩ else none

end Instant
end ModelDepot
