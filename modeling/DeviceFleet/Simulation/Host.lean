import DeviceFleet.Simulation.Session

/-!
Time for a session and the tasks around it. Time passes only when no task is ready. At the end of a
wait the session goes on before the tasks whose alarms ring at that instant.
-/

namespace DeviceFleet.Simulation

/-- What holds a session, and what its tasks do when it is their turn. -/
class Host (σ : Type) where
  session : σ → Session
  withSession : Session → σ → σ
  turn : Task → σ → σ

/-- A step of a session: an action, or one after which the tasks take their turns. -/
inductive Step
  | act (a : Action)
  | heartbeatStart (r : Record) (period : Nat)
  | advance (ms : Nat)
  | sleep (ms : Nat)
  | trigger
  | dropShutdown

namespace Host

variable {σ : Type} [Host σ]

def schedule (h : σ) : Schedule := (session h).world.schedule

def now (h : σ) : Nat := (schedule h).now

def onSession (f : Session → Session) (h : σ) : σ := withSession (f (session h)) h

def onSchedule (f : Schedule → Schedule) (h : σ) : σ :=
  onSession (Session.onWorld (World.onSchedule f)) h

/-- So many turns of those that are ready and of those that they make ready. -/
def takeTurns : Nat → σ → σ
  | 0, h => h
  | fuel + 1, h =>
    match (schedule h).ready with
    | [] => h
    | t :: rest => takeTurns fuel (turn t (onSchedule (fun s => { s with ready := rest }) h))

/-- At one instant a heartbeat has a turn when it is spawned, when its alarm rings and when it is
told to stop, and the other tasks have no more; one heartbeat may be spawned meanwhile. -/
def turnsAllowed (h : σ) : Nat := 4 * ((session h).world.beaters.length + 4)

/-- The tasks take turns until none is ready. -/
def drain (h : σ) : σ := takeTurns (turnsAllowed h) h

def ring (h : σ) : σ := onSchedule Schedule.ring h

/-- All that can be done at this instant is done. -/
def settle (h : σ) : σ := drain (ring (drain h))

/-- Passes from alarm to alarm before an instant. -/
def passAlarms (limit : Nat) : Nat → σ → σ
  | 0, h => h
  | fuel + 1, h =>
    match (schedule h).nextDue? with
    | some due =>
      if due < limit then passAlarms limit fuel (drain (ring (onSchedule (Schedule.moveTo due) h)))
      else h
    | none => h

/-- Waits for an instant; each alarm on the way lies later than the one before. -/
def passTo (limit : Nat) (h : σ) : σ :=
  if now h < limit then
    ring (onSchedule (Schedule.moveTo limit) (passAlarms limit (limit - now h) (drain h)))
  else h

/-- Waits for some time. -/
def pass (ms : Nat) (h : σ) : σ := passTo (now h + ms) h

def step (h : σ) : Step → Outcome × σ
  | .act a =>
    let (o, s) := (session h).perform a
    (o, withSession s h)
  | .heartbeatStart r period =>
    (.word "started", settle (onSession (Session.startHeartbeat ⟨r, period⟩) h))
  | .advance ms => (.word "advanced", settle (onSchedule (Schedule.moveTo (now h + ms)) h))
  | .sleep ms => (.word "slept", settle (pass ms h))
  | .trigger =>
    let (first, s) := (session h).trigger
    (.flag first, settle (withSession s h))
  | .dropShutdown => (.word "dropped", settle (onSession Session.dropShutdown h))

end Host

/-- By itself a session has heartbeats only. -/
instance : Host Session where
  session s := s
  withSession s _ := s
  turn
    | .heartbeat i, s => s.onWorld (World.turn i)
    | _, s => s

end DeviceFleet.Simulation
