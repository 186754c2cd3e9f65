import DeviceFleet.Fleet.Request
import DeviceFleet.Lifecycle.State

/-!
Counters and the one gauge. A counter's value is how often it was recorded; the gauge holds the
number of devices last set, and none before.
-/

namespace DeviceFleet

inductive BeatResult
  | ok
  | recreated
  | error
  deriving DecidableEq, Repr

def BeatResult.all : List BeatResult := [.ok, .recreated, .error]

def BeatResult.name : BeatResult → String
  | .ok => "ok"
  | .recreated => "recreated"
  | .error => "error"

inductive Counter
  | operation (op : Operation) (failure : Option StoreError.Kind)
  | transition (entered : Lifecycle)
  | heartbeat (result : BeatResult)
  deriving DecidableEq, Repr

namespace Counter

def all : List Counter :=
  (Operation.all.flatMap fun op =>
    (none :: StoreError.Kind.all.map some).map fun failure => Counter.operation op failure) ++
  Lifecycle.all.map .transition ++ BeatResult.all.map .heartbeat

def label (name value : String) : String := name ++ "=\"" ++ value ++ "\""

def series (name : String) (labels : List String) : String :=
  name ++ "\x7b" ++ ",".intercalate labels ++ "\x7d"

def outcome : Option StoreError.Kind → String
  | none => "ok"
  | some kind => kind.name

def text : Counter → String
  | .operation op failure =>
    series "wavefleet_registry_operations_total"
      [label "op" op.name, label "outcome" (outcome failure)]
  | .transition state => series "wavefleet_lifecycle_transitions_total" [label "state" state.name]
  | .heartbeat result => series "wavefleet_heartbeats_total" [label "outcome" result.name]

end Counter

structure Metrics where
  recorded : List Counter
  devices : Option Int
  deriving DecidableEq, Repr

namespace Metrics

def empty : Metrics := ⟨[], none⟩

def record (c : Counter) (m : Metrics) : Metrics := { m with recorded := c :: m.recorded }

def count (m : Metrics) (c : Counter) : Nat := m.recorded.count c

def setDevices (n : Int) (m : Metrics) : Metrics := { m with devices := some n }

def gaugeName : String := "wavefleet_registry_devices"

/-- Every series recorded so far with its value. -/
def samples (m : Metrics) : List (String × Int) :=
  (m.devices.toList.map fun n => (gaugeName, n)) ++
  ((Counter.all.map fun c => (c.text, (m.count c : Int))).filter fun s => s.2 ≠ 0)

/-- What a call of the store records: its outcome, and the number of devices if it changed it. -/
def observe (q : Request) (r : q.Result) (devices : Int) (m : Metrics) : Metrics :=
  let failure : Option StoreError.Kind := match r with
    | .ok _ => none
    | .error e => some e.kind
  let m := match q, failure with
    | .create _, none => m.setDevices devices
    | .delete _, none => m.setDevices devices
    | _, _ => m
  m.record (.operation q.operation failure)

end Metrics

end DeviceFleet
