import DeviceFleet.Net.SocketAddress
import DeviceFleet.Settings.Basic
import DeviceFleet.Settings.Port
import DeviceFleet.Text.Quoted

/-!
The constraints on settings. Each is checked on its own, and all that are violated are reported.
-/

namespace DeviceFleet

inductive Violation
  | port (text : String)
  | emptyDataDir
  | logLevel (text : String)
  | missingName
  | emptyTenant
  | controlPlane (text : String)
  | zeroDuration (setting : String)
  | metricsAddress (text : String)
  deriving DecidableEq, Repr

namespace Violation

def message : Violation → String
  | .port s => "port " ++ Text.quoted s ++ " is not a valid TCP port"
  | .emptyDataDir => "data directory must not be empty"
  | .logLevel s => "log level " ++ Text.quoted s ++ " is not one of debug, info, warn, error"
  | .missingName => "device name is required"
  | .emptyTenant => "tenant must not be empty"
  | .controlPlane s => "control-plane address " ++ Text.quoted s ++ " must be host:port"
  | .zeroDuration setting => setting ++ " must be greater than zero"
  | .metricsAddress s => "metrics address " ++ Text.quoted s ++ " is not a socket address"

def report (vs : List Violation) : String :=
  "invalid configuration: " ++ "; ".intercalate (vs.map message)

end Violation

def Settings.isNamed (s : Settings) : Bool := s.name.any fun n => !Text.isBlank n

/-- What must hold of settings. -/
inductive Constraint
  | port
  | dataDir
  | logLevel
  | name
  | tenant
  | controlPlane
  | shutdownTimeout
  | heartbeatInterval
  | metricsAddress
  deriving DecidableEq, Repr

namespace Constraint

/-- In the order of reports. -/
def all : List Constraint := [.port, .dataDir, .logLevel, .name, .tenant, .controlPlane,
  .shutdownTimeout, .heartbeatInterval, .metricsAddress]

/-- A name and a tenant are asked of devices only. -/
def broken (role : Role) (s : Settings) : Constraint → Bool
  | .port => (readPort s.port).isNone
  | .dataDir => s.dataDir.isEmpty
  | .logLevel => (LogLevel.parse? s.logLevel).isNone
  | .name => role = .device && !s.isNamed
  | .tenant => role = .device && Text.isBlank s.tenant
  | .controlPlane => s.controlPlane.any fun a => !isHostPort a
  | .shutdownTimeout => s.shutdownTimeoutSecs = 0
  | .heartbeatInterval => s.heartbeatIntervalSecs = 0
  | .metricsAddress => s.metricsAddress.any fun a => (Net.SocketAddress.parse? a).isNone

/-- What is reported of a constraint that is broken. -/
def violation (s : Settings) : Constraint → Violation
  | .port => .port s.port
  | .dataDir => .emptyDataDir
  | .logLevel => .logLevel s.logLevel
  | .name => .missingName
  | .tenant => .emptyTenant
  | .controlPlane => .controlPlane (s.controlPlane.getD "")
  | .shutdownTimeout => .zeroDuration "shutdown_timeout_secs"
  | .heartbeatInterval => .zeroDuration "heartbeat_interval_secs"
  | .metricsAddress => .metricsAddress (s.metricsAddress.getD "")

end Constraint

def Settings.violations (role : Role) (s : Settings) : List Violation :=
  (Constraint.all.filter (Constraint.broken role s)).map (Constraint.violation s)

end DeviceFleet
