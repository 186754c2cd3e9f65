import DeviceFleet.Lifecycle.Supervisor

/-!
What a supervisor waits for: while it serves, for the end of the run loop and for a termination
signal at once; after a signal for the end of the loop, but no longer than until a deadline.
-/

namespace DeviceFleet

/-- Which of the two a serving supervisor takes up when both are ready. -/
inductive Preference
  | ending
  | signal
  deriving DecidableEq, Repr

/-- The deadline is known once a signal was taken up. -/
structure Watch where
  supervisor : Supervisor
  grace : Nat
  deadline : Option Nat

namespace Watch

def initial : Watch := ⟨.initial, 0, none⟩

/-- What is ready to be taken up. The end of a loop that was told to stop comes before the
deadline. -/
def ready? (p : Preference) (ended : Option LoopEnd) (signaled : Bool) (now : Nat) (w : Watch) :
    Option Occurrence :=
  match w.supervisor.phase, ended with
  | .serving, none => if signaled then some .terminationRequested else none
  | .serving, some how =>
    if signaled && p = .signal then some .terminationRequested else some (.loopEnded how)
  | .unwinding, some how => some (.loopEnded how)
  | .unwinding, none => if w.deadline.any (· ≤ now) then some .deadlinePassed else none
  | _, _ => none

def takeUp (now : Nat) (o : Occurrence) (w : Watch) : Watch where
  supervisor := w.supervisor.react o
  grace := w.grace
  deadline := if o = .terminationRequested then some (now + w.grace) else w.deadline

end Watch

end DeviceFleet
