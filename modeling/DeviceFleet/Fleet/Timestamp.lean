/-!
Moments of the wall clock, which may be set back at any time.
-/

namespace DeviceFleet

/-- A moment, in nanoseconds from the start of 1970. -/
structure Timestamp where
  nanos : Int
  deriving DecidableEq, Repr

namespace Timestamp

def epoch : Timestamp := ⟨0⟩

def latest (a b : Timestamp) : Timestamp := if a.nanos ≤ b.nanos then b else a

/-- Whole milliseconds since 1970, none before it, cut to 64 bits. -/
def toMillis (t : Timestamp) : Nat := (t.nanos.toNat / 1000000) % UInt64.size

def ofMillis (n : Nat) : Timestamp := ⟨n * 1000000⟩

end Timestamp

end DeviceFleet
