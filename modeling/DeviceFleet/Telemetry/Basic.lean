import DeviceFleet.Telemetry.Event
import DeviceFleet.Telemetry.Metrics

/-!
All that a run leaves for its operator: its metrics and its log.
-/

namespace DeviceFleet

/-- The log is kept with the newest record first. -/
structure Telemetry where
  metrics : Metrics
  newest : List LogRecord

namespace Telemetry

def empty : Telemetry := ⟨.empty, []⟩

/-- The log in order of emission. -/
def records (t : Telemetry) : List LogRecord := t.newest.reverse

def log (scope : Option Scope) (e : Event) (t : Telemetry) : Telemetry :=
  { t with newest := ⟨e, scope⟩ :: t.newest }

def count (c : Counter) (t : Telemetry) : Telemetry := { t with metrics := t.metrics.record c }

/-- What the store logs about a call that changed it. -/
def storeEvent : (q : Request) → q.Result → Option Event
  | .create _, .ok r =>
    some ⟨.debug, Target.store, "Device created", [("device", .text r.key.text)]⟩
  | .delete k, .ok () =>
    some ⟨.debug, Target.store, "Device deleted",
      [("device", .text k.name), ("tenant", .text k.tenant)]⟩
  | _, _ => none

def observe (scope : Option Scope) (q : Request) (r : q.Result) (devices : Int) (t : Telemetry) :
    Telemetry :=
  let t := { t with metrics := t.metrics.observe q r devices }
  match storeEvent q r with
  | some e => t.log scope e
  | none => t

end Telemetry

end DeviceFleet
