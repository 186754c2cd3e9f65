import DeviceFleet.CommandLine.Given
import DeviceFleet.CommandLine.Help
import DeviceFleet.Simulation.Run
import DeviceFleet.Telemetry.Filter

/-!
A process from its command line to its exit: what it prints, what it logs, and its exit status.
-/

namespace DeviceFleet.Simulation

/-- A signal, if one is sent, arrives when the process serves. -/
structure Invocation where
  role : Role
  words : List String
  filterText : Option String
  signal : Option String
  machine : Machine
  world : World

/-- `status` is unknown for a process that goes on for ever. -/
structure Exit where
  status : Option Nat
  output : String
  complaint : Option String
  log : List LogRecord
  logFile : Option String

namespace Invocation

def signalEvent (name : String) : Event :=
  ⟨.info, Target.supervisor, "Termination signal received", [("signal", .text name)]⟩

/-- Only a process that serves listens for signals. -/
def receive (name : String) (r : Run) : Run :=
  match r.supervisor.phase with
  | .serving => { r.log (signalEvent name) with signalDue := some r.schedule.rung }.supervise
  | _ => r

def run (i : Invocation) (d : Draft) : Run :=
  let r := Host.settle (Run.start ⟨i.role, d, none, none⟩ i.machine (.new i.world))
  (match i.signal with
    | some name => receive name r
    | none => r).finish

def complain (role : Role) (why : Failure) : String := role.component ++ ": " ++ why.message

def stop (role : Role) : CommandLine.Stop → Exit
  | .asked w => ⟨some 0, w.answer role, none, [], none⟩
  | .misused m => ⟨some 1, "", some m.message, [], none⟩

def failLoading (role : Role) (e : LoadError) : Exit :=
  ⟨some (exitStatus (.error (.load e))), "", some (complain role (.load e)), [], none⟩

/-- Whether the log was opened before the run came to its end. -/
def hasLog : Option RunResult → Bool
  | some (.error (.configuration _)) => false
  | some (.error (.logging ..)) => false
  | _ => true

/-- The records that were written: those that the filter lets pass. -/
def written (i : Invocation) (d : Draft) (r : Run) : List LogRecord :=
  if hasLog r.supervisor.result? then
    let level := (LogLevel.parse? d.settings.logLevel).getD .info
    (Filter.choose i.filterText level).apply r.session.world.telemetry.records
  else []

def complaintOf (role : Role) : Option RunResult → Option String
  | some (.error why) => some (complain role why)
  | _ => none

def conclude (i : Invocation) (d : Draft) (r : Run) : Exit where
  status := r.supervisor.result?.map exitStatus
  output := ""
  complaint := complaintOf i.role r.supervisor.result?
  log := i.written d r
  logFile := d.settings.logFile

def exit (i : Invocation) : Exit :=
  match CommandLine.parse i.role i.words with
  | .error s => stop i.role s
  | .ok given =>
    match given.draft (FileSettings.load i.machine.files) i.role with
    | .error e => failLoading i.role e
    | .ok d => i.conclude d (i.run d)

end Invocation

end DeviceFleet.Simulation
