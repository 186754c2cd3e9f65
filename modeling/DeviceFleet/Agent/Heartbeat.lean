import DeviceFleet.Agent.Ticker
import DeviceFleet.Fleet.Request
import DeviceFleet.Telemetry.Event
import DeviceFleet.Telemetry.Metrics

/-!
A device keeps its own record fresh. A beat updates the record, and creates it again if it is gone.
The loop beats whenever its ticker goes off, one beat at a time, until it is told to stop between
two beats.
-/

namespace DeviceFleet

inductive BeatEnd
  | refreshed
  | recreated
  | createFailed (e : StoreError)
  | updateFailed (e : StoreError)
  deriving DecidableEq, Repr

namespace BeatEnd

def result : BeatEnd → BeatResult
  | .refreshed => .ok
  | .recreated => .recreated
  | .createFailed _ => .error
  | .updateFailed _ => .error

def event? (r : Record) : BeatEnd → Option Event
  | .refreshed => none
  | .recreated =>
    some ⟨.warn, Target.heartbeat, "Device record was missing, re-registered",
      [("device", .text r.key.text)]⟩
  | .createFailed e =>
    some ⟨.warn, Target.heartbeat, "Heartbeat re-registration failed",
      [("device", .text r.key.text), ("error", .text e.message)]⟩
  | .updateFailed e =>
    some ⟨.warn, Target.heartbeat, "Heartbeat failed",
      [("device", .text r.key.text), ("error", .text e.message)]⟩

end BeatEnd

def beat (r : Record) : Client BeatEnd :=
  .call (.update r) fun
    | .ok _ => .done .refreshed
    | .error (.notFound _) => .call (.create r) fun
      | .ok _ => .done .recreated
      | .error e => .done (.createFailed e)
    | .error e => .done (.updateFailed e)

structure Heartbeat where
  record : Record
  period : Nat
  deriving DecidableEq, Repr

namespace Heartbeat

inductive Phase
  | spawned
  | waiting (ticker : Ticker)
  | beating (ticker : Ticker) (rest : Client BeatEnd)
  | ended
  | crashed

def Phase.isOver : Phase → Bool
  | .ended => true
  | .crashed => true
  | _ => false

def Phase.isCrashed : Phase → Bool
  | .crashed => true
  | _ => false

def startEvent (h : Heartbeat) : Event :=
  ⟨.debug, Target.heartbeat, "Heartbeat starting",
    [("device", .text h.record.key.text), ("interval_secs", .number (.secondsOfMillis h.period))]⟩

def stopEvent : Event :=
  ⟨.debug, Target.heartbeat, "Heartbeat received shutdown signal, exiting loop", []⟩

/-- The loop at its start; a period that no ticker can have crashes it. -/
def start (h : Heartbeat) (uptimeSecs now : Nat) : Phase :=
  if Ticker.canStart uptimeSecs now h.period then .waiting (Ticker.start now h.period) else .crashed

/-- When a waiting loop will beat next. -/
def Phase.due? : Phase → Option Nat
  | .waiting t => some t.due
  | _ => none

/-- What a waiting loop does: stop if it is told to, else beat if its ticker has gone off. A loop for
which both are ready is free to take up either; this one takes up the stop. Alarms have rung up to
the instant `rung`. -/
def wake (h : Heartbeat) (stopping : Bool) (rung now : Nat) : Phase → Phase
  | .waiting t =>
    if stopping then .ended
    else if t.isDue rung then .beating (t.fire now) (beat h.record)
    else .waiting t
  | p => p

end Heartbeat

end DeviceFleet
