import DeviceFleet.Json.Printer
import DeviceFleet.Settings.LogLevel
import DeviceFleet.Settings.Role
import DeviceFleet.Settings.Tags

/-!
The settings of a process, as given by the operator, and their defaults for each role. Paths are
texts here: those whose bytes are not UTF-8 are left out.
-/

namespace DeviceFleet

structure Settings where
  port : String
  dataDir : String
  logLevel : String
  logFile : Option String
  name : Option String
  controlPlane : Option String
  tags : Tags
  tenant : String
  shutdownTimeoutSecs : UInt64
  heartbeatIntervalSecs : UInt64
  metricsAddress : Option String
  deriving DecidableEq, Repr

namespace Settings

def defaults (role : Role) : Settings where
  port := role.defaultPort
  dataDir := role.defaultDataDir
  logLevel := LogLevel.info.name
  logFile := none
  name := none
  controlPlane := none
  tags := ∅
  tenant := "default"
  shutdownTimeoutSecs := 5
  heartbeatIntervalSecs := 30
  metricsAddress := none

def toJson (s : Settings) : Json :=
  .object [
    ("control_plane", .ofOption .text s.controlPlane),
    ("data_dir", .text s.dataDir),
    ("heartbeat_interval_secs", .integer s.heartbeatIntervalSecs.toNat),
    ("log_file", .ofOption .text s.logFile),
    ("log_level", .text s.logLevel),
    ("metrics_address", .ofOption .text s.metricsAddress),
    ("name", .ofOption .text s.name),
    ("port", .text s.port),
    ("shutdown_timeout_secs", .integer s.shutdownTimeoutSecs.toNat),
    ("tags", .ofTable .text s.tags),
    ("tenant", .text s.tenant)]

end Settings

end DeviceFleet
