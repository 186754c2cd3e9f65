import DeviceFleet.Agent.Heartbeat
import DeviceFleet.Files.Tree
import DeviceFleet.Settings.Draft

/-!
The loop that serves: it makes the data directory, binds the port, registers the device and starts
its heartbeat, serves until told to stop, and waits for the heartbeat before it returns.
-/

namespace DeviceFleet

/-- What makes a run loop fail. That its server fails is foreseen, but a server waits out the errors of
its socket: no simulated loop comes to that end by itself. -/
inductive ServiceError
  | dataDir (path : String) (reason : Files.FileError)
  | bind (port : UInt16) (reason : String)
  | serve (reason : String)
  | registration (e : StoreError)
  deriving DecidableEq, Repr

def ServiceError.message : ServiceError → String
  | .dataDir path reason =>
    "cannot prepare data directory " ++ Text.quoted path ++ ": " ++ reason.message
  | .bind port reason => "cannot bind port " ++ Text.Decimal.text port.toNat ++ ": " ++ reason
  | .serve reason => "server error: " ++ reason
  | .registration e => "device registration failed: " ++ e.message

/-- How a run loop comes to its end. -/
inductive LoopEnd
  | completed
  | failed (e : ServiceError)
  | crashed
  deriving DecidableEq, Repr

/-- Creates the record, or updates the one that is there. -/
def register (r : Record) : Client (Except ServiceError Record) :=
  .call (.create r) fun
    | .ok created => .done (.ok created)
    | .error (.alreadyExists _) => .call (.update r) fun
      | .ok updated => .done (.ok updated)
      | .error e => .done (.error (.registration e))
    | .error e => .done (.error (.registration e))

namespace Service

def listeningEvent (s : Service) : Event :=
  ⟨.info, Target.server, "Listening for connections", [
    ("address", .text ("0.0.0.0:" ++ Text.Decimal.text s.port.toNat)),
    ("data_dir", .text s.dataDir)]⟩

def registeredEvent (r : Record) : Event :=
  ⟨.info, Target.server, "Device registered", [
    ("control_plane", .text (r.controlPlane.getD "-")),
    ("device", .text r.key.text),
    ("tags", .integer r.tags.size)]⟩

def heartbeatLostEvent : Event :=
  ⟨.warn, Target.server, "Heartbeat task ended abnormally", [("error", .text Event.crashText)]⟩

def stoppedEvent : Event := ⟨.info, Target.server, "Service stopped", []⟩

/-- The heartbeat of a registered device. -/
def heartbeat (s : Service) (registered : Record) : Heartbeat :=
  ⟨registered, 1000 * s.settings.heartbeatIntervalSecs.toNat⟩

end Service

/-- Where a run loop is; without a service there is none. -/
inductive RunLoop
  | absent
  | spawned (s : Service)
  | registering (s : Service) (rest : Client (Except ServiceError Record))
  | serving
  | ended (how : LoopEnd)

def RunLoop.end? : RunLoop → Option LoopEnd
  | .ended how => some how
  | _ => none

end DeviceFleet
