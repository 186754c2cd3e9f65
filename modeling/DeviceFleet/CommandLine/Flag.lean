import DeviceFleet.Settings.Draft
import DeviceFleet.Text.Decimal

/-!
The flags of the two processes. Every flag takes one value, which names the settings file or is
written over one setting. Values are texts, also those that are paths.
-/

namespace DeviceFleet.CommandLine

inductive Flag
  | config
  | port
  | dataDir
  | logLevel
  | logFile
  | metricsAddress
  | shutdownTimeoutSecs
  | name
  | controlPlane
  | tags
  | tenant
  | heartbeatIntervalSecs
  deriving DecidableEq, Repr

/-- What a flag's value stands for. -/
inductive Argument
  | file (path : String)
  | setting (s : Setting)
  deriving DecidableEq, Repr

/-- Why a flag does not take a value. -/
inductive ValueFlaw
  | empty
  | notACount (reason : Text.Decimal.Flaw)
  deriving DecidableEq, Repr

def readPath (v : String) : Except ValueFlaw String := if v.isEmpty then .error .empty else .ok v

def readSeconds (v : String) : Except ValueFlaw UInt64 :=
  match Text.Decimal.readCount v.toList with
  | .ok n => .ok (UInt64.ofNat n)
  | .error reason => .error (.notACount reason)

namespace Flag

/-- In the order of the help text. -/
def all : List Flag := [
  .config, .port, .dataDir, .logLevel, .logFile, .metricsAddress, .shutdownTimeoutSecs,
  .name, .controlPlane, .tags, .tenant, .heartbeatIntervalSecs]

/-- What only a device has is no flag of the control plane. -/
def isKnownTo : Role → Flag → Bool
  | .device, _ => true
  | .central, .name | .central, .controlPlane | .central, .tags | .central, .tenant
  | .central, .heartbeatIntervalSecs => false
  | .central, _ => true

def long : Flag → String
  | .config => "config"
  | .port => "port"
  | .dataDir => "data-dir"
  | .logLevel => "log-level"
  | .logFile => "log-file"
  | .metricsAddress => "metrics-address"
  | .shutdownTimeoutSecs => "shutdown-timeout-secs"
  | .name => "name"
  | .controlPlane => "control-plane"
  | .tags => "tags"
  | .tenant => "tenant"
  | .heartbeatIntervalSecs => "heartbeat-interval-secs"

def short? : Flag → Option Char
  | .config => some 'c'
  | .port => some 'p'
  | .name => some 'n'
  | _ => none

def purpose : Flag → String
  | .config => "TOML configuration file"
  | .port => "TCP port to listen on"
  | .dataDir => "Directory for local state"
  | .logLevel => "One of debug, info, warn, error"
  | .logFile => "Write JSON logs to this file instead of stdout"
  | .metricsAddress => "Serve Prometheus metrics on this host:port"
  | .shutdownTimeoutSecs => "Upper bound on graceful shutdown, in seconds"
  | .name => "Device name, unique within the tenant"
  | .controlPlane => "Control plane address (host:port)"
  | .tags => "Comma-separated key=value tags"
  | .tenant => "Tenant to register under"
  | .heartbeatIntervalSecs => "Seconds between heartbeats"

/-- The name of the value in messages: the flag in capitals, with underscores. -/
def placeholder (f : Flag) : String := f.long.map fun c => if c = '-' then '_' else c.toUpper

def usage (f : Flag) : String := "--" ++ f.long ++ " <" ++ f.placeholder ++ ">"

def ofLong? (role : Role) (name : String) : Option Flag :=
  all.find? fun f => f.isKnownTo role && f.long = name

def ofShort? (role : Role) (c : Char) : Option Flag :=
  all.find? fun f => f.isKnownTo role && f.short? = some c

def read (v : String) : Flag → Except ValueFlaw Argument
  | .config => do .ok (.file (← readPath v))
  | .port => .ok (.setting (.port v))
  | .dataDir => do .ok (.setting (.dataDir (← readPath v)))
  | .logLevel => .ok (.setting (.logLevel v))
  | .logFile => do .ok (.setting (.logFile (← readPath v)))
  | .metricsAddress => .ok (.setting (.metricsAddress v))
  | .shutdownTimeoutSecs => do .ok (.setting (.shutdownTimeoutSecs (← readSeconds v)))
  | .name => .ok (.setting (.name v))
  | .controlPlane => .ok (.setting (.controlPlane v))
  | .tags => .ok (.setting (.tagList v))
  | .tenant => .ok (.setting (.tenant v))
  | .heartbeatIntervalSecs => do .ok (.setting (.heartbeatIntervalSecs (← readSeconds v)))

end Flag

/-- A question that ends the program with its answer. -/
inductive Switch
  | help
  | version
  deriving DecidableEq, Repr

namespace Switch

def long : Switch → String
  | .help => "help"
  | .version => "version"

def short : Switch → Char
  | .help => 'h'
  | .version => 'V'

def purpose : Switch → String
  | .help => "Print help"
  | .version => "Print version"

def all : List Switch := [.help, .version]

def ofLong? (name : String) : Option Switch := all.find? fun s => s.long = name

def ofShort? (c : Char) : Option Switch := all.find? fun s => s.short = c

end Switch

end DeviceFleet.CommandLine
