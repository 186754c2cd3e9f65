import DeviceFleet.Agent.Heartbeat
import DeviceFleet.Lifecycle.Shutdown
import DeviceFleet.Simulation.Schedule
import DeviceFleet.Simulation.Script
import DeviceFleet.Telemetry.Basic

/-!
A store under a script of faults, the heartbeats that use it, and the schedule of their turns.
-/

namespace DeviceFleet.Simulation

/-- Whose shutdown a heartbeat listens to. -/
inductive Owner
  | session
  | service
  deriving DecidableEq, Repr

structure Beater where
  heartbeat : Heartbeat
  owner : Owner
  scope : Option Scope
  stopping : Bool
  phase : Heartbeat.Phase

structure World where
  store : Store
  script : Script
  telemetry : Telemetry
  wallClock : Timestamp
  uptimeSecs : Nat
  schedule : Schedule
  beaters : List Beater

/-- How far a client got. -/
inductive Progress (α : Type)
  | finished (a : α)
  | stalled (rest : Client α)
  | crashed

namespace World

def new (script : Script) (wallClock : Timestamp) (uptimeSecs : Nat) : World :=
  ⟨.empty, script, .empty, wallClock, uptimeSecs, .initial, []⟩

def onSchedule (f : Schedule → Schedule) (w : World) : World :=
  { w with schedule := f w.schedule }

def log (scope : Option Scope) (e : Event) (w : World) : World :=
  { w with telemetry := w.telemetry.log scope e }

def count (c : Counter) (w : World) : World := { w with telemetry := w.telemetry.count c }

/-- A call that reaches the store. -/
def perform (scope : Option Scope) (q : Request) (w : World) : q.Result × World :=
  let (r, store) := w.store.perform w.wallClock q
  (r, { w with store, telemetry := w.telemetry.observe scope q r store.devices })

/-- Runs a client until it is done, or until one of its calls stalls or crashes. -/
def run (scope : Option Scope) : Client α → World → Progress α × World
  | .done a, w => (.finished a, w)
  | .call q next, w =>
    let (cue, script) := w.script.next q.operation
    let w := { w with script }
    match cue with
    | .pass =>
      let (r, w) := w.perform scope q
      run scope (next r) w
    | .refuse kind => run scope (next (.error (scriptedError q kind))) w
    | .stall => (.stalled (.call q next), w)
    | .crash => (.crashed, w)

def reportBeat (r : Record) (scope : Option Scope) (e : BeatEnd) (w : World) : World :=
  let w := match e.event? r with
    | some event => w.log scope event
    | none => w
  w.count (.heartbeat e.result)

/-- One beat, and what it leaves behind. -/
def runBeat (b : Beater) (ticker : Ticker) (c : Client BeatEnd) (w : World) : Beater × World :=
  match w.run b.scope c with
  | (.finished e, w) =>
    ({ b with phase := .waiting ticker }, w.reportBeat b.heartbeat.record b.scope e)
  | (.stalled rest, w) => ({ b with phase := .beating ticker rest }, w)
  | (.crashed, w) => ({ b with phase := .crashed }, w)

/-- The first steps of a heartbeat, until it waits. -/
def beginBeater (b : Beater) (w : World) : Beater × World :=
  ({ b with phase := b.heartbeat.start w.uptimeSecs w.schedule.now },
    w.log b.scope b.heartbeat.startEvent)

/-- Lets a heartbeat beat while its ticker has gone off, until it waits or ends. -/
def wakeBeater : Nat → Beater → World → Beater × World
  | 0, b, w => (b, w)
  | fuel + 1, b, w =>
    match b.heartbeat.wake b.stopping w.schedule.rung w.schedule.now b.phase, b.phase with
    | .beating ticker c, .waiting _ =>
      let (b, w) := w.runBeat b ticker c
      wakeBeater fuel b w
    | .ended, .waiting _ => ({ b with phase := .ended }, w.log b.scope Heartbeat.stopEvent)
    | _, _ => (b, w)

/-- A ticker that is late within the tolerance has at most this many ticks to make up. -/
def beatsAllowed : Nat := Ticker.tolerance + 2

def advanceBeater (b : Beater) (w : World) : Beater × World :=
  match b.phase with
  | .spawned =>
    let (b, w) := w.beginBeater b
    wakeBeater beatsAllowed b w
  | _ => wakeBeater beatsAllowed b w

/-- What a heartbeat waits for after its turn, and who waits for its end. -/
def arrange (i : Nat) (b : Beater) (s : Schedule) : Schedule :=
  match b.phase, b.owner with
  | .waiting t, _ => s.setAlarm t.due (.heartbeat i)
  | .spawned, _ | .beating .., _ => s
  | _, .session => s.cancel (.heartbeat i)
  | _, .service => (s.cancel (.heartbeat i)).wake .loop

def settleBeater (i : Nat) (x : Beater × World) : World :=
  { x.2 with beaters := x.2.beaters.set i x.1, schedule := arrange i x.1 x.2.schedule }

/-- A heartbeat does something, and then waits. -/
def withBeater (i : Nat) (f : Beater → World → Beater × World) (w : World) : World :=
  match w.beaters[i]? with
  | some b => settleBeater i (f b w)
  | none => w

/-- The turn of a heartbeat. -/
def turn (i : Nat) (w : World) : World := w.withBeater i fun b w => w.advanceBeater b

/-- A heartbeat that will begin at its first turn. -/
def spawn (h : Heartbeat) (owner : Owner) (scope : Option Scope) (stopping : Bool) (w : World) :
    World :=
  { w with
    beaters := w.beaters ++ [⟨h, owner, scope, stopping, .spawned⟩]
    schedule := w.schedule.wake (.heartbeat w.beaters.length) }

/-- The heartbeats of an owner that wait for their tickers. -/
def waitingTasks (owner : Owner) (w : World) : List Task :=
  w.beaters.zipIdx.filterMap fun (b, i) =>
    if b.owner = owner && b.phase.due?.isSome then some (.heartbeat i) else none

/-- Tells the heartbeats of an owner to stop. -/
def stop (owner : Owner) (w : World) : World :=
  { w with
    beaters := w.beaters.map fun b => if b.owner = owner then { b with stopping := true } else b
    schedule := (w.waitingTasks owner).foldl (fun s t => s.wake t) w.schedule }

def beatersOf (owner : Owner) (w : World) : List Beater :=
  w.beaters.filter fun b => b.owner = owner

end World

end DeviceFleet.Simulation
