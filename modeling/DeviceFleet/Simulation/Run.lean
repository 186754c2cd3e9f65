import DeviceFleet.Lifecycle.Startup
import DeviceFleet.Lifecycle.Watch
import DeviceFleet.Simulation.Host

/-!
Runs of a whole process in virtual time: a supervisor, the run loop it spawns, the signal that may
stop it and the deadline after that, while a session uses the same store.
-/

namespace DeviceFleet.Simulation

/-- What a run starts from. A grace here overrides the one in the settings. -/
structure Plan where
  role : Role
  draft : Draft
  grace : Option Nat
  signalAfter : Option Nat

namespace Plan

def roleEvent (p : Plan) : Event :=
  ⟨.warn, Target.supervisor, "Builder role differs from coordinator role", [
    ("builder", .text p.draft.role.component),
    ("coordinator", .text p.role.component)]⟩

def graceFor (p : Plan) (s : Service) : Nat :=
  p.grace.getD (1000 * s.settings.shutdownTimeoutSecs.toNat)

end Plan

/-- The supervisor has one alarm at most: for the signal, if one is due, while it serves, and then
for the deadline. -/
structure Run where
  plan : Plan
  session : Session
  machine : Machine
  scope : Option Scope
  watch : Watch
  signalDue : Option Nat
  loop : RunLoop

namespace Run

def onWorld (f : World → World) (r : Run) : Run := { r with session := r.session.onWorld f }

def onSchedule (f : Schedule → Schedule) (r : Run) : Run := r.onWorld (World.onSchedule f)

def schedule (r : Run) : Schedule := r.session.world.schedule

def supervisor (r : Run) : Supervisor := r.watch.supervisor

def log (e : Event) (r : Run) : Run := r.onWorld (World.log r.scope e)

/-- The supervisor takes up an occurrence. -/
def occur (o : Occurrence) (r : Run) : Run :=
  let report (t : Telemetry) : Telemetry :=
    r.supervisor.report r.scope (.secondsOfMillis r.watch.grace) o t
  let r := r.onWorld fun w => { w with telemetry := report w.telemetry }
  { r with watch := r.watch.takeUp r.schedule.now o }

def isOver (r : Run) : Bool := r.supervisor.result?.isSome

/-- The run loop ends, which the supervisor will see at its next turn. -/
def endLoop (how : LoopEnd) (r : Run) : Run :=
  { r with loop := .ended how }.onSchedule (Schedule.wake .supervisor)

def heartbeats (r : Run) : List Beater := r.session.world.beatersOf .service

/-- A serving loop that was told to stop returns when its heartbeat has ended. -/
def unwind (r : Run) : Run :=
  match r.loop with
  | .serving =>
    if r.supervisor.stopAsked && r.heartbeats.all (·.phase.isOver) then
      let lost := r.heartbeats.any (·.phase.isCrashed)
      let r := if lost then r.log Service.heartbeatLostEvent else r
      (r.log Service.stoppedEvent).endLoop .completed
    else r
  | _ => r

def serve (r : Run) : Run := { r with loop := .serving }.unwind

def startHeartbeat (h : Heartbeat) (r : Run) : Run :=
  r.onWorld fun w => w.spawn h .service r.scope r.supervisor.stopAsked

def registerDevice (s : Service) (record : Record) (r : Run) : Run :=
  match r.session.world.run r.scope (register record) with
  | (.finished (.ok registered), w) =>
    let r := (r.onWorld fun _ => w).log (Service.registeredEvent registered)
    (r.startHeartbeat (s.heartbeat registered)).serve
  | (.finished (.error e), w) => (r.onWorld fun _ => w).endLoop (.failed e)
  | (.stalled rest, w) => { r.onWorld fun _ => w with loop := .registering s rest }
  | (.crashed, w) => (r.onWorld fun _ => w).endLoop .crashed

/-- The first steps of a run loop, as far as they go without waiting. -/
def startLoop (s : Service) (r : Run) : Run :=
  match r.machine.files.makeDirectories s.dataDir with
  | .error e => r.endLoop (.failed (.dataDir s.dataDir e))
  | .ok files =>
    let r := { r with machine := { r.machine with files } }
    match r.machine.portRefusal s.port with
    | some reason => r.endLoop (.failed (.bind s.port reason))
    | none =>
      let r := r.log s.listeningEvent
      match s.deviceRecord? with
      | some record => r.registerDevice s record
      | none => r.serve

/-- The turn of the run loop; one that was cut off does nothing more. -/
def advanceLoop (r : Run) : Run :=
  if r.isOver then r
  else
    match r.loop with
    | .spawned s => r.startLoop s
    | _ => r.unwind

def isSignaled (r : Run) : Bool := r.signalDue.any (· ≤ r.schedule.rung)

/-- The shutdown begins: the run loop and its heartbeats are told to stop. -/
def unwindService (r : Run) : Run :=
  let r := (r.occur .terminationRequested).onWorld (World.stop .service)
  let r := r.onSchedule (Schedule.wake .loop)
  match r.watch.deadline with
  | some deadline => r.onSchedule (Schedule.setAlarm deadline .supervisor)
  | none => r

/-- The supervisor takes up what is ready, one of two things as it prefers. Once it has returned it
waits for nothing. -/
def look (p : Preference) (r : Run) : Run :=
  match r.watch.ready? p r.loop.end? r.isSignaled r.schedule.rung with
  | some .terminationRequested => r.unwindService
  | some o => (r.occur o).onSchedule (Schedule.cancel .supervisor)
  | none => r

def awaitSignal (r : Run) : Run :=
  match r.plan.signalAfter with
  | none => r
  | some ms =>
    let due := r.schedule.now + ms
    { r with signalDue := some due }.onSchedule (Schedule.setAlarm due .supervisor)

def noteRoles (r : Run) : Run :=
  if r.plan.draft.role = r.plan.role then r else r.log r.plan.roleEvent

/-- What an initialization leaves behind, however it went. -/
def keepTraces (i : Initialization) (scope : Scope) (r : Run) : Run :=
  let r := { r with machine := { r.machine with files := i.files } }
  i.events.foldl (fun r e => r.onWorld (World.log (some scope) e)) r

def spawnLoop (s : Service) (scope : Scope) (r : Run) : Run :=
  let watch := { r.watch with grace := r.plan.graceFor s }
  let r := { r with scope := some scope, watch, loop := .spawned s }
  ((r.occur .initialized).onSchedule (Schedule.wake .loop)).awaitSignal

/-- Initialization, and then the spawning of the run loop. -/
def launch (r : Run) : Run :=
  let r := r.noteRoles
  let i := startUp r.machine r.plan.draft
  let scope : Scope := ⟨r.plan.draft.role.component, r.session.world.wallClock⟩
  let r := r.keepTraces i scope
  match i.outcome with
  | .error why => r.occur (.initializationFailed why)
  | .ok s => r.spawnLoop s scope

/-- The turn of the supervisor, which begins at the first with the initialization. Having taken up a
signal it looks again. A serving supervisor is free to take up either if its loop has ended and a
signal is there; at its turns it takes up the end. -/
def supervise (r : Run) : Run :=
  match r.supervisor.phase with
  | .initializing => (r.launch.look .ending).look .ending
  | _ => (r.look .ending).look .ending

instance : Host Run where
  session := Run.session
  withSession session r := { r with session }
  turn
    | .supervisor, r => r.supervise
    | .loop, r => r.advanceLoop
    | .heartbeat i, r => r.onWorld (World.turn i)

/-- A run that will begin at the first turn of its supervisor. -/
def start (p : Plan) (m : Machine) (session : Session) : Run :=
  Run.onSchedule (Schedule.wake .supervisor) ⟨p, session, m, none, .initial, none, .absent⟩

/-- Waits for the alarm of the supervisor, if it has one. -/
def awaitAlarm (r : Run) : Run :=
  match r.schedule.alarmOf? .supervisor with
  | some due => Host.settle (Host.passTo due r)
  | none => r

/-- Waits for the end of the run: for the signal and then the deadline, if they still lie ahead. -/
def finish (r : Run) : Run := (Host.settle r).awaitAlarm.awaitAlarm

end Run

end DeviceFleet.Simulation
