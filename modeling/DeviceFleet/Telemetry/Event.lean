import DeviceFleet.Fleet.Timestamp
import DeviceFleet.Json.Value

/-!
Log records: what happened, where in the program, and inside which process span.
-/

namespace DeviceFleet

inductive Severity
  | trace
  | debug
  | info
  | warn
  | error
  deriving DecidableEq, Repr

namespace Severity

def name : Severity → String
  | .trace => "TRACE"
  | .debug => "DEBUG"
  | .info => "INFO"
  | .warn => "WARN"
  | .error => "ERROR"

def rank : Severity → Nat
  | .trace => 5
  | .debug => 4
  | .info => 3
  | .warn => 2
  | .error => 1

end Severity

structure Event where
  severity : Severity
  target : String
  message : String
  fields : List (String × Json)

/-- The error of a task that crashed. -/
def Event.crashText : String := "task panicked"

/-- The span of one process: which component it is and when it was started. -/
structure Scope where
  component : String
  bootedAt : Timestamp
  deriving DecidableEq, Repr

/-- An event with the span around it; outside every span it carries none. -/
structure LogRecord where
  event : Event
  scope : Option Scope

namespace Target

def supervisor : String := "wavefleet::lifecycle::coordinator"
def startup : String := "wavefleet::lifecycle::startup"
def state : String := "wavefleet::lifecycle::state"
def server : String := "wavefleet::service::server"
def heartbeat : String := "wavefleet::service::heartbeat"
def store : String := "wavefleet::registry::memory"
def metrics : String := "wavefleet::observability::metrics"
def logging : String := "wavefleet::observability::logging"

end Target

end DeviceFleet
