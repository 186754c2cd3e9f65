import DeviceFleet.Files.Path
import DeviceFleet.Fleet.Record
import DeviceFleet.Settings.File
import DeviceFleet.Settings.Violation

/-!
Settings under construction: one write after another on top of the defaults of a role, and then the
service they describe, or every constraint they violate. The last write of a setting counts.
-/

namespace DeviceFleet

/-- One write. A tag list replaces all tags, and leaves the pairs that are none. -/
inductive Setting
  | port (text : String)
  | dataDir (path : String)
  | logLevel (text : String)
  | logFile (path : String)
  | name (text : String)
  | controlPlane (address : String)
  | tags (tags : Tags)
  | tagList (text : String)
  | tenant (text : String)
  | shutdownTimeoutSecs (n : UInt64)
  | heartbeatIntervalSecs (n : UInt64)
  | metricsAddress (address : String)
  deriving DecidableEq, Repr

structure Draft where
  role : Role
  settings : Settings
  rejectedTags : List String
  deriving DecidableEq, Repr

/-- Settings that violate no constraint, with what their texts denote. -/
structure Service where
  role : Role
  settings : Settings
  port : UInt16
  dataDir : String
  logLevel : LogLevel
  rejectedTags : List String
  deriving DecidableEq, Repr

namespace Draft

def ofSettings (role : Role) (settings : Settings) : Draft := ⟨role, settings, []⟩

def new (role : Role) : Draft := ofSettings role (.defaults role)

def write (d : Draft) : Setting → Draft
  | .port v => { d with settings := { d.settings with port := v } }
  | .dataDir v => { d with settings := { d.settings with dataDir := v } }
  | .logLevel v => { d with settings := { d.settings with logLevel := v } }
  | .logFile v => { d with settings := { d.settings with logFile := some v } }
  | .name v => { d with settings := { d.settings with name := some v } }
  | .controlPlane v => { d with settings := { d.settings with controlPlane := some v } }
  | .tags v => { d with settings := { d.settings with tags := v }, rejectedTags := [] }
  | .tagList v =>
    { d with
      settings := { d.settings with tags := (Tags.read v).tags }
      rejectedTags := (Tags.read v).rejected }
  | .tenant v => { d with settings := { d.settings with tenant := v } }
  | .shutdownTimeoutSecs v => { d with settings := { d.settings with shutdownTimeoutSecs := v } }
  | .heartbeatIntervalSecs v =>
    { d with settings := { d.settings with heartbeatIntervalSecs := v } }
  | .metricsAddress v => { d with settings := { d.settings with metricsAddress := some v } }

def writeAll (d : Draft) (writes : List Setting) : Draft := writes.foldl write d

end Draft

/-- The writes that stand for a file. -/
def FileSettings.writes (f : FileSettings) : List Setting :=
  f.port.toList.map .port ++
  f.dataDir.toList.map .dataDir ++
  f.logLevel.toList.map .logLevel ++
  f.logFile.toList.map .logFile ++
  f.name.toList.map .name ++
  f.controlPlane.toList.map .controlPlane ++
  f.tags.toList.map .tags ++
  f.tenant.toList.map .tenant ++
  f.shutdownTimeoutSecs.toList.map .shutdownTimeoutSecs ++
  f.heartbeatIntervalSecs.toList.map .heartbeatIntervalSecs ++
  f.metricsAddress.toList.map .metricsAddress

namespace Draft

def applyFile (f : FileSettings) (d : Draft) : Draft := d.writeAll f.writes

def build (cwd : String) (d : Draft) : Except (List Violation) Service :=
  match d.settings.violations d.role with
  | [] => .ok {
      role := d.role
      settings := d.settings
      port := (readPort d.settings.port).getD 0
      dataDir := Files.absolutePath cwd d.settings.dataDir
      logLevel := (LogLevel.parse? d.settings.logLevel).getD .info
      rejectedTags := d.rejectedTags }
  | vs => .error vs

end Draft

namespace Service

/-- The record a device registers for itself; the control plane has none. -/
def deviceRecord? (s : Service) : Option Record :=
  match s.role, s.settings.name with
  | .device, some name =>
    some { Record.new s.settings.tenant name with
      tags := s.settings.tags
      controlPlane := s.settings.controlPlane }
  | _, _ => none

end Service

end DeviceFleet
