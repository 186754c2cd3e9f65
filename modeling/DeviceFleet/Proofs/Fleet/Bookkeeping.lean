import DeviceFleet.Proofs.Fleet.Stamps
import DeviceFleet.Simulation.World

/-! The shards of a store, its count, the counters of calls and the gauge are kept apart. After every
run of calls they agree with one another and with the replies. -/

namespace DeviceFleet

namespace Reply

def failure? : Reply → Option StoreError.Kind
  | ⟨_, .ok _⟩ => none
  | ⟨_, .error e⟩ => some e.kind

def counter (r : Reply) : Counter := .operation r.1.operation r.failure?

/-- By how much the call changes the number of records. -/
def growth : Reply → Int
  | ⟨.create _, .ok _⟩ => 1
  | ⟨.delete _, .ok _⟩ => -1
  | _ => 0

end Reply

/-- How many calls of an operation were answered in one way. -/
def answered (op : Operation) (failure : Option StoreError.Kind) (replies : List Reply) : Nat :=
  replies.countP fun r => r.1.operation = op ∧ r.failure? = failure

namespace Store

variable {s : Store} {k : Key}

lemma devices_perform (now : Timestamp) (q : Request) (s : Store) :
    (s.perform now q).2.devices = s.devices + Reply.growth ⟨q, (s.perform now q).1⟩ := by
  cases q with
  | create r =>
    cases hr : r.key.check with
    | error e => simp [perform, create, hr, Reply.growth]
    | ok u =>
      cases hheld : s.record? r.key with
      | some old => simp [perform, create, hr, enroll_of_taken now hheld, Reply.growth]
      | none => simp [perform, create, hr, enroll_of_free now hheld, Reply.growth]
  | get k => simp [perform, Reply.growth]
  | update r =>
    cases hr : r.key.check <;> simp [perform, update, hr, Reply.growth]
  | delete k =>
    cases hk : k.check with
    | error e => simp [perform, delete, hk, Reply.growth]
    | ok u =>
      have htook := devices_takeOut k s
      simp only [perform, delete, hk]
      generalize s.takeOut k = took at htook
      obtain ⟨taken, after⟩ := took
      cases taken with
      | false => simpa [Reply.growth] using htook
      | true => simpa [Reply.growth, discount, sub_eq_add_neg] using htook
  | list tenant token size => simp [perform, Reply.growth]

end Store

namespace Metrics

variable {q : Request} {n : Int} {m : Metrics}

lemma recorded_observe (q : Request) (r : q.Result) (n : Int) (m : Metrics) :
    (m.observe q r n).recorded = Reply.counter ⟨q, r⟩ :: m.recorded := by
  cases q <;> cases r <;> rfl

lemma devices_observe (q : Request) (r : q.Result) (n : Int) (m : Metrics) :
    (m.observe q r n).devices = if Reply.growth ⟨q, r⟩ = 0 then m.devices else some n := by
  cases q <;> cases r <;> rfl

end Metrics

namespace Simulation.World

variable {scope : Option Scope} {w : World}

/-- A call that reaches the store when the clock says so. -/
def performAt (scope : Option Scope) (now : Timestamp) (w : World) (q : Request) :
    q.Result × World :=
  { w with wallClock := now }.perform scope q

lemma metrics_performAt (scope : Option Scope) (now : Timestamp) (w : World) (q : Request) :
    (w.performAt scope now q).2.telemetry.metrics =
      w.telemetry.metrics.observe q (w.store.perform now q).1 (w.store.perform now q).2.devices := by
  simp only [performAt, perform, Telemetry.observe]
  cases Telemetry.storeEvent q _ <;> rfl

def Gauged (w : World) : Prop := w.telemetry.metrics.devices = some w.store.devices

lemma Gauged.performAt (h : w.Gauged) (now : Timestamp) (q : Request) :
    (w.performAt scope now q).2.Gauged := by
  have hdevices := Store.devices_perform now q w.store
  change _ = some (w.store.perform now q).2.devices
  rw [metrics_performAt, Metrics.devices_observe]
  split
  · next hsame => rw [hdevices, hsame, add_zero, h]
  · rfl

end Simulation.World

end DeviceFleet
