/-!
Tasks that take turns in virtual time, counted in milliseconds. Those that are ready take their
turns in the order in which they became ready. Alarms make their tasks ready in the order of their
instants, and those of one instant in the order in which they were set.
-/

namespace DeviceFleet.Simulation

inductive Task
  | supervisor
  | loop
  | heartbeat (index : Nat)
  deriving DecidableEq, Repr

structure Alarm where
  due : Nat
  task : Task
  deriving DecidableEq, Repr

/-- The alarms up to the instant `rung` have rung; a clock that jumps leaves it behind. The others
are kept in the order in which they were set, at most one for a task. -/
structure Schedule where
  now : Nat
  rung : Nat
  ready : List Task
  alarms : List Alarm
  deriving DecidableEq, Repr

namespace Schedule

def initial : Schedule := ⟨0, 0, [], []⟩

/-- A task that is ready already keeps its place. -/
def wake (t : Task) (s : Schedule) : Schedule :=
  if t ∈ s.ready then s else { s with ready := s.ready ++ [t] }

def cancel (t : Task) (s : Schedule) : Schedule :=
  { s with alarms := s.alarms.filter (·.task ≠ t) }

/-- Replaces the alarm of a task, unless it is set for that instant already. -/
def setAlarm (due : Nat) (t : Task) (s : Schedule) : Schedule :=
  if ⟨due, t⟩ ∈ s.alarms then s
  else
    let s := s.cancel t
    { s with alarms := s.alarms ++ [⟨due, t⟩] }

def alarmOf? (t : Task) (s : Schedule) : Option Nat :=
  (s.alarms.find? (·.task = t)).map (·.due)

/-- When the next alarm is due. -/
def nextDue? (s : Schedule) : Option Nat := (s.alarms.map (·.due)).min?

def moveTo (instant : Nat) (s : Schedule) : Schedule := { s with now := instant }

/-- The alarms that are due, in the order in which they ring. -/
def dueAlarms (s : Schedule) : List Alarm :=
  (s.alarms.filter (·.due ≤ s.now)).mergeSort fun a b => a.due ≤ b.due

/-- Rings the alarms that are due. -/
def ring (s : Schedule) : Schedule :=
  let woken := s.dueAlarms.foldl (fun s a => s.wake a.task) s
  { woken with rung := s.now, alarms := s.alarms.filter (s.now < ·.due) }

end Schedule

end DeviceFleet.Simulation
