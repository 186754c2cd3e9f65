import DeviceFleet.Lifecycle.Supervisor

/-!
Initialization: the settings are checked before anything is touched; then the log is opened, the
metrics exporter started, and the settings logged. The first failure ends it.
-/

namespace DeviceFleet

/-- What a process finds on its machine, and why it may not listen there, if so. -/
structure Machine where
  cwd : String
  files : Files.Tree
  exporterRefusal : Net.SocketAddress → Option String
  portRefusal : UInt16 → Option String

/-- How an initialization went, with the log and the files it left. -/
structure Initialization where
  outcome : Except Failure Service
  events : List Event
  files : Files.Tree

namespace Service

def startupEvent (severity : Severity) (message : String) (fields : List (String × Json)) : Event :=
  ⟨severity, Target.startup, message, fields⟩

def droppedTagEvent (pair : String) : Event :=
  startupEvent .warn "Dropping malformed tag, expected key=value" [("pair", .text pair)]

def exporterEvent (address : String) : Event :=
  ⟨.info, Target.metrics, "Metrics exporter listening", [("address", .text address)]⟩

def loadedEvent (s : Service) : Event :=
  startupEvent .info "Configuration loaded" [
    ("data_dir", .text s.dataDir),
    ("log_level", .text s.logLevel.name),
    ("port", .integer s.port.toNat),
    ("shutdown_timeout_secs", .integer s.settings.shutdownTimeoutSecs.toNat),
    ("version", .text programVersion)]

def effectiveEvent (s : Service) : Event :=
  startupEvent .debug "Effective configuration" [("config", .text s.settings.toJson.render)]

/-- Opens the log file, if one is set. -/
def openLog (s : Service) (files : Files.Tree) : Except Failure Files.Tree :=
  match s.settings.logFile with
  | none => .ok files
  | some path => (files.openAppend path).mapError (.logging path)

/-- Why the exporter cannot be started, or the event of its start, if one is asked for. -/
def startExporter (s : Service) (refusal : Net.SocketAddress → Option String) :
    Except Failure (List Event) :=
  match s.settings.metricsAddress with
  | none => .ok []
  | some text =>
    match Net.SocketAddress.parse? text with
    | none => .error (.metrics ("bad address " ++ text))
    | some address =>
      match refusal address with
      | some reason => .error (.metrics reason)
      | none => .ok [exporterEvent text]

/-- The part of an initialization that follows the opening of the log. -/
def startWithLog (s : Service) (m : Machine) (files : Files.Tree) : Initialization :=
  let dropped := s.rejectedTags.map droppedTagEvent
  match s.startExporter m.exporterRefusal with
  | .error why => ⟨.error why, dropped, files⟩
  | .ok exporter => ⟨.ok s, dropped ++ exporter ++ [s.loadedEvent, s.effectiveEvent], files⟩

end Service

def startUp (m : Machine) (d : Draft) : Initialization :=
  match d.build m.cwd with
  | .error violations => ⟨.error (.configuration violations), [], m.files⟩
  | .ok s =>
    match s.openLog m.files with
    | .error why => ⟨.error why, [], m.files⟩
    | .ok files => s.startWithLog m files

end DeviceFleet
