/-!
A timer that goes off at regular intervals, in milliseconds. One that is late by more than the
tolerance starts its interval anew, so missed ticks are not made up.
-/

namespace DeviceFleet

structure Ticker where
  period : Nat
  due : Nat
  deriving DecidableEq, Repr

namespace Ticker

def tolerance : Nat := 5

def start (now period : Nat) : Ticker := ⟨period, now + period⟩

def isDue (t : Ticker) (now : Nat) : Bool := t.due ≤ now

/-- The ticker after it has gone off. -/
def fire (now : Nat) (t : Ticker) : Ticker :=
  { t with due := if now > t.due + tolerance then now + t.period else t.due + t.period }

/-- The clock counts seconds in 63 bits, so no tick can lie beyond. -/
def lastSecond : Nat := 9223372036854775807

/-- A period of zero, or one that ends beyond the last second, cannot be started. -/
def canStart (uptimeSecs now period : Nat) : Bool :=
  period ≠ 0 && uptimeSecs + (now + period) / 1000 ≤ lastSecond

end Ticker

end DeviceFleet
