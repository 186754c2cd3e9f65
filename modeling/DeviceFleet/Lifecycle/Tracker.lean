import DeviceFleet.Telemetry.Basic

/-!
The published state of a process. A request for a move that the states do not allow is logged and
changes nothing. Observers see whether the state has changed since they last looked.
-/

namespace DeviceFleet

/-- The current state, and how many moves led to it. -/
structure Tracker where
  current : Lifecycle
  version : Nat
  deriving DecidableEq, Repr

namespace Tracker

def initial : Tracker := ⟨.initializing, 0⟩

def accepts (t : Tracker) (next : Lifecycle) : Bool := t.current.canMoveTo next

def transition (next : Lifecycle) (t : Tracker) : Bool × Tracker :=
  if t.accepts next then (true, ⟨next, t.version + 1⟩) else (false, t)

def fields (t : Tracker) (next : Lifecycle) : List (String × Json) :=
  [("from", .text t.current.name), ("to", .text next.name)]

def event (next : Lifecycle) (t : Tracker) : Event :=
  if t.accepts next then ⟨.info, Target.state, "Lifecycle transition", t.fields next⟩
  else ⟨.warn, Target.state, "Ignoring illegal lifecycle transition", t.fields next⟩

/-- What a request for a move leaves in log and metrics. -/
def report (scope : Option Scope) (next : Lifecycle) (t : Tracker) (r : Telemetry) : Telemetry :=
  let r := r.log scope (t.event next)
  if t.accepts next then r.count (.transition next) else r

/-- What an observer knows: the version it has seen. -/
structure Observer where
  seen : Nat
  deriving DecidableEq, Repr

def subscribe (t : Tracker) : Observer := ⟨t.version⟩

def changedFor (t : Tracker) (o : Observer) : Bool := t.version ≠ o.seen

end Tracker

end DeviceFleet
