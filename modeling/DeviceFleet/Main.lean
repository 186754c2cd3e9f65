import DeviceFleet.CommandLine.Given
import DeviceFleet.CommandLine.Help
import DeviceFleet.Http.Api
import DeviceFleet.Lifecycle.Startup
import DeviceFleet.Telemetry.Filter
import DeviceFleet.Telemetry.Line
import Std.Time.DateTime.Timestamp

/-!
The program. Its first word names the process to run, the others are the flags of that process.
Requests are lines of standard input, a method and a target each, and are answered on standard
output by the status and the body; a heartbeat that has become due comes before the next request.
The end of the input asks the process to stop.
-/

namespace DeviceFleet.Console

/-- What a running process changes. -/
structure Process where
  supervisor : Supervisor
  store : Store
  telemetry : Telemetry
  heartbeat : Option (Heartbeat × Heartbeat.Phase)

/-- What it keeps: its service, its span, its filter, and where its log goes. -/
structure Context where
  service : Service
  scope : Scope
  filter : Filter
  sink : IO.FS.Stream
  state : IO.Ref Process

def readClock : IO Timestamp := do
  let t ← Std.Time.Timestamp.now
  return ⟨t.toNanosecondsSinceUnixEpoch.val⟩

def fileError : IO.Error → Files.FileError
  | .noFileOrDirectory .. => .missing
  | .permissionDenied .. => .denied
  | .alreadyExists .. => .exists
  | .inappropriateType .. => .isDirectory
  | _ => .notDirectory

def readSettings (path : String) : IO (Except LoadError FileSettings) := do
  match ← (IO.FS.readBinFile path).toBaseIO with
  | .error e => return .error (.unreadable path (fileError e))
  | .ok content =>
    match Text.Utf8.decode? content.toList with
    | none => return .error (.unreadable path .notUtf8)
    | some text => return (FileSettings.parse text).mapError (.malformed path text)

def readDraft (role : Role) (given : CommandLine.Given) : IO (Except LoadError Draft) := do
  match given.file? with
  | none => return given.draft (fun path => .error (.unreadable path .missing)) role
  | some path =>
    let settings ← readSettings path
    return given.draft (fun _ => settings) role

def openSink : Option String → IO (Except Failure IO.FS.Stream)
  | none => return .ok (← IO.getStdout)
  | some path => do
    match ← (IO.FS.Handle.mk path .append).toBaseIO with
    | .ok handle => return .ok (IO.FS.Stream.ofHandle handle)
    | .error e => return .error (.logging path (fileError e))

/-- Writes the records that the filter lets pass, and forgets all. -/
def flush (c : Context) : IO Unit := do
  let p ← c.state.get
  let written ← readClock
  for r in c.filter.apply p.telemetry.records do
    c.sink.putStrLn (r.line written)
  c.sink.flush
  c.state.set { p with telemetry := { p.telemetry with newest := [] } }

def note (c : Context) (e : Event) : IO Unit := do
  c.state.modify fun p => { p with telemetry := p.telemetry.log (some c.scope) e }
  flush c

def occur (c : Context) (o : Occurrence) : IO Unit := do
  let grace : Binary64 := .secondsOfMillis (1000 * c.service.settings.shutdownTimeoutSecs.toNat)
  c.state.modify fun p =>
    { p with
      supervisor := p.supervisor.react o
      telemetry := p.supervisor.report (some c.scope) grace o p.telemetry }
  flush c

/-- Runs a client on the store, with the clock read at every call. -/
def ask (c : Context) : Client α → IO α
  | .done a => return a
  | .call q next => do
    let now ← readClock
    let p ← c.state.get
    let (r, store) := p.store.perform now q
    let telemetry := p.telemetry.observe (some c.scope) q r store.devices
    c.state.set { p with store, telemetry }
    ask c (next r)

def setHeartbeat (c : Context) (h : Heartbeat) (phase : Heartbeat.Phase) : IO Unit :=
  c.state.modify fun p => { p with heartbeat := some (h, phase) }

def startHeartbeat (c : Context) (h : Heartbeat) : IO Unit := do
  note c h.startEvent
  setHeartbeat c h (h.start 0 (← IO.monoMsNow))

def reportBeat (c : Context) (h : Heartbeat) (e : BeatEnd) : IO Unit := do
  c.state.modify fun p => { p with telemetry := p.telemetry.count (.heartbeat e.result) }
  match e.event? h.record with
  | some event => note c event
  | none => return

/-- Lets a waiting heartbeat do what it has to do now. -/
def wakeHeartbeat (c : Context) (stopping : Bool) : IO Unit := do
  match (← c.state.get).heartbeat with
  | none => return
  | some (h, phase) =>
    let now ← IO.monoMsNow
    match h.wake stopping now now phase with
    | .beating ticker client =>
      reportBeat c h (← ask c client)
      setHeartbeat c h (.waiting ticker)
    | .ended =>
      note c Heartbeat.stopEvent
      setHeartbeat c h .ended
    | .spawned | .waiting _ => return
    | .crashed => if stopping then note c Service.heartbeatLostEvent

def bodyText : Http.Body → String
  | .empty => ""
  | .text s => s
  | .json j => j.render

def answerLine (c : Context) (line : String) : IO Unit := do
  let (method, target) := match Text.cutFirst ' ' (Text.trimChars line.toList) with
    | some (m, t) => (String.ofList m, String.ofList t)
    | none => ("GET", String.ofList (Text.trimChars line.toList))
  match Http.Uri.parse? target with
  | none => IO.println "400"
  | some uri =>
    let p ← c.state.get
    let health : Http.Health := ⟨c.service.role, p.supervisor.tracker.current⟩
    let r ← ask c (Http.respond health method uri)
    IO.println (Text.Decimal.text r.status ++ " " ++ bodyText r.body)

partial def serve (c : Context) (input : IO.FS.Stream) : IO Unit := do
  let line ← input.getLine
  if line.isEmpty then return
  wakeHeartbeat c false
  answerLine c line
  serve c input

/-- Makes the data directory, registers the device, and starts its heartbeat. -/
def prepare (c : Context) : IO (Except ServiceError Unit) := do
  match ← (IO.FS.createDirAll c.service.dataDir).toBaseIO with
  | .error e => return .error (.dataDir c.service.dataDir (fileError e))
  | .ok () =>
    note c c.service.listeningEvent
    match c.service.deviceRecord? with
    | none => return .ok ()
    | some record =>
      match ← ask c (register record) with
      | .error e => return .error e
      | .ok registered =>
        note c (Service.registeredEvent registered)
        startHeartbeat c (c.service.heartbeat registered)
        return .ok ()

def drive (c : Context) : IO Unit := do
  occur c .initialized
  match ← prepare c with
  | .error e => occur c (.loopEnded (.failed e))
  | .ok () =>
    serve c (← IO.getStdin)
    occur c .terminationRequested
    wakeHeartbeat c true
    note c Service.stoppedEvent
    occur c (.loopEnded .completed)

/-- Without a socket there is no exporter. -/
def noExporter (_ : Net.SocketAddress) : Option String := some "no listener is available"

def runService (s : Service) (sink : IO.FS.Stream) : IO RunResult := do
  let machine : Machine := ⟨"", ⟨[], []⟩, noExporter, fun _ => none⟩
  let i := s.startWithLog machine machine.files
  let scope : Scope := ⟨s.role.component, ← readClock⟩
  let filter := Filter.choose (← IO.getEnv "RUST_LOG") s.logLevel
  let state ← IO.mkRef ⟨.initial, .empty, .empty, none⟩
  let c : Context := ⟨s, scope, filter, sink, state⟩
  for e in i.events do
    note c e
  match i.outcome with
  | .error why => occur c (.initializationFailed why)
  | .ok _ => drive c
  return ((← state.get).supervisor.result?).getD (.error .runLoopCrashed)

def runDraft (d : Draft) : IO RunResult := do
  match d.build (← IO.currentDir).toString with
  | .error violations => return .error (.configuration violations)
  | .ok s =>
    match ← openSink s.settings.logFile with
    | .error why => return .error why
    | .ok sink => runService s sink

def runProcess (role : Role) (words : List String) : IO UInt32 := do
  match CommandLine.parse role words with
  | .error (.asked w) =>
    IO.print (w.answer role)
    return 0
  | .error (.misused m) =>
    IO.eprintln m.message
    return 1
  | .ok given =>
    let result ← match ← readDraft role given with
      | .error e => pure (.error (.load e))
      | .ok d => runDraft d
    match result with
    | .ok _ => return 0
    | .error why =>
      IO.eprintln (role.component ++ ": " ++ why.message)
      return UInt32.ofNat (exitStatus result)

def roleOf? (word : String) : Option Role :=
  [Role.central, Role.device].find? fun r => r.component = word

end DeviceFleet.Console

open DeviceFleet.Console in
def main (words : List String) : IO UInt32 := do
  match words with
  | word :: rest =>
    match roleOf? word with
    | some role => runProcess role rest
    | none =>
      IO.eprintln "the first word names the process: wfcentral or wfdevice"
      return 1
  | [] =>
    IO.eprintln "the first word names the process: wfcentral or wfdevice"
    return 1
