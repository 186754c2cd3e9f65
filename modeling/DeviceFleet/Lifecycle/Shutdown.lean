import DeviceFleet.Table

/-!
A request to stop. It is latched: who subscribes after it was triggered still sees it. Waiting ends
when it is triggered or its owner is gone.
-/

namespace DeviceFleet

structure Shutdown where
  triggered : Bool
  abandoned : Bool
  deriving DecidableEq, Repr

namespace Shutdown

def new : Shutdown := ⟨false, false⟩

/-- Tells whether this was the first trigger. -/
def trigger (s : Shutdown) : Bool × Shutdown := (!s.triggered, { s with triggered := true })

def abandon (s : Shutdown) : Shutdown := { s with abandoned := true }

/-- Whether those who wait are let go. -/
def isOver (s : Shutdown) : Bool := s.triggered || s.abandoned

end Shutdown

/-- A shutdown with the names of those that listen to it. -/
structure ShutdownAudience where
  shutdown : Shutdown
  listeners : Table Unit

namespace ShutdownAudience

def new : ShutdownAudience := ⟨.new, ∅⟩

def add (id : String) (a : ShutdownAudience) : ShutdownAudience :=
  { a with listeners := a.listeners.insert id () }

def remove (id : String) (a : ShutdownAudience) : Bool × ShutdownAudience :=
  (a.listeners.contains id, { a with listeners := a.listeners.erase id })

/-- How many listen; unknown once the owner is gone. -/
def listenerCount (a : ShutdownAudience) : Option Nat :=
  if a.shutdown.abandoned then none else some a.listeners.size

end ShutdownAudience

end DeviceFleet
