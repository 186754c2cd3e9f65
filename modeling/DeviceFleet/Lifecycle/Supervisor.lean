import DeviceFleet.Agent.RunLoop
import DeviceFleet.Lifecycle.Tracker
import DeviceFleet.Settings.Load

/-!
The life of a process: initialization, the run loop, and a shutdown that waits for the run loop no
longer than a deadline. A supervisor reacts to what occurs; after it has returned nothing moves it.
-/

namespace DeviceFleet

/-- What keeps a process from a good end. Left out is a machine that refuses the handlers of signals,
which are installed before the initialization: the process fails then as it does when that fails. -/
inductive Failure
  | configuration (violations : List Violation)
  | load (e : LoadError)
  | logging (path : String) (reason : Files.FileError)
  | metrics (reason : String)
  | runLoop (e : ServiceError)
  | runLoopCrashed
  deriving DecidableEq, Repr

namespace Failure

def message : Failure → String
  | .configuration vs => Violation.report vs
  | .load e => "cannot load configuration: " ++ e.message
  | .logging path reason =>
    "logging setup failed: cannot open log file " ++ Text.quoted path ++ ": " ++ reason.message
  | .metrics reason => "metrics exporter failed: " ++ reason
  | .runLoop e => "run loop failed: " ++ e.message
  | .runLoopCrashed => "run loop panicked"

end Failure

/-- A good end: whether a signal asked for it, and whether the deadline cut it short. -/
structure Report where
  signaled : Bool
  timedOut : Bool
  deriving DecidableEq, Repr

abbrev RunResult := Except Failure Report

def exitStatus : RunResult → Nat
  | .ok _ => 0
  | .error _ => 1

inductive Occurrence
  | initialized
  | initializationFailed (why : Failure)
  | loopEnded (how : LoopEnd)
  | terminationRequested
  | deadlinePassed
  deriving DecidableEq, Repr

namespace Supervisor

inductive Phase
  | initializing
  | serving
  | unwinding
  | returned (result : RunResult)

end Supervisor

/-- `readyCount` is how often the start was announced; `stopAsked` whether the run loop was told to
stop. -/
structure Supervisor where
  phase : Supervisor.Phase
  tracker : Tracker
  readyCount : Nat
  stopAsked : Bool

namespace Supervisor

def initial : Supervisor := ⟨.initializing, .initial, 0, false⟩

def move (next : Lifecycle) (s : Supervisor) : Supervisor :=
  { s with tracker := (s.tracker.transition next).2 }

def close (r : RunResult) (s : Supervisor) : Supervisor := { s with phase := .returned r }

/-- The result of a run whose loop came to its own end. -/
def resultOf (signaled : Bool) : LoopEnd → RunResult
  | .completed => .ok ⟨signaled, false⟩
  | .failed e => .error (.runLoop e)
  | .crashed => .error .runLoopCrashed

def stateOf : RunResult → Lifecycle
  | .ok _ => .stopped
  | .error _ => .failed

def finish (r : RunResult) (s : Supervisor) : Supervisor := (s.move (stateOf r)).close r

def react (s : Supervisor) (o : Occurrence) : Supervisor :=
  match s.phase, o with
  | .initializing, .initialized =>
    { s.move .running with phase := .serving, readyCount := s.readyCount + 1 }
  | .initializing, .initializationFailed why => s.finish (.error why)
  | .serving, .loopEnded how => s.finish (resultOf false how)
  | .serving, .terminationRequested =>
    { s.move .shuttingDown with phase := .unwinding, stopAsked := true }
  | .unwinding, .loopEnded how => s.finish (resultOf true how)
  | .unwinding, .deadlinePassed => s.finish (.ok ⟨true, true⟩)
  | _, _ => s

def result? (s : Supervisor) : Option RunResult :=
  match s.phase with
  | .returned r => some r
  | _ => none

def note (severity : Severity) (message : String) (fields : List (String × Json)) : Event :=
  ⟨severity, Target.supervisor, message, fields⟩

/-- What the end of a run loop leaves in the log, around the last move. -/
def endEvents : LoopEnd → List Event × List Event
  | .completed => ([], [note .info "Shutdown complete" []])
  | .failed e => ([note .error "Run loop failed" [("error", .text e.message)]], [])
  | .crashed => ([note .error "Run loop panicked" [("error", .text Event.crashText)]], [])

def logAll (scope : Option Scope) (es : List Event) (t : Telemetry) : Telemetry :=
  es.foldl (fun t e => t.log scope e) t

def reportEnd (scope : Option Scope) (how : LoopEnd) (s : Supervisor) (t : Telemetry) : Telemetry :=
  let t := logAll scope (endEvents how).1 t
  let t := s.tracker.report scope (stateOf (resultOf true how)) t
  logAll scope (endEvents how).2 t

/-- What a reaction leaves in log and metrics. The deadline is given in seconds; unwinding itself is
taken to need no time. -/
def report (scope : Option Scope) (deadlineSecs : Binary64) (s : Supervisor) (o : Occurrence)
    (t : Telemetry) : Telemetry :=
  match s.phase, o with
  | .initializing, .initialized => s.tracker.report scope .running t
  | .initializing, .initializationFailed _ => s.tracker.report none .failed t
  | .serving, .loopEnded how =>
    let t := t.log scope (note .info "Run loop returned without a termination signal" [])
    s.reportEnd scope how t
  | .serving, .terminationRequested => s.tracker.report scope .shuttingDown t
  | .unwinding, .loopEnded how =>
    let t := t.log scope
      (note .info "Service unwound before the deadline" [("elapsed_ms", .integer 0)])
    s.reportEnd scope how t
  | .unwinding, .deadlinePassed =>
    let t := t.log scope (note .warn "Shutdown deadline elapsed, no longer waiting for the service"
      [("timeout_secs", .number deadlineSecs)])
    s.tracker.report scope .stopped t
  | _, _ => t

end Supervisor

end DeviceFleet
