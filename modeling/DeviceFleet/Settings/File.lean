import DeviceFleet.Settings.Tags
import DeviceFleet.Toml.Value

/-!
Settings in a file: any of eleven keys. A file is accepted if it has no other key and each value
has its type; otherwise its first wrong entry is reported.
-/

namespace DeviceFleet

/-- The settings a file gives. -/
structure FileSettings where
  port : Option String
  dataDir : Option String
  logLevel : Option String
  logFile : Option String
  name : Option String
  controlPlane : Option String
  tags : Option Tags
  tenant : Option String
  shutdownTimeoutSecs : Option UInt64
  heartbeatIntervalSecs : Option UInt64
  metricsAddress : Option String
  deriving DecidableEq, Repr

namespace FileSettings

def empty : FileSettings :=
  ⟨none, none, none, none, none, none, none, none, none, none, none⟩

def keys : List String := [
  "port", "data_dir", "log_level", "log_file", "name", "control_plane", "tags", "tenant",
  "shutdown_timeout_secs", "heartbeat_interval_secs", "metrics_address"]

/-- A mismatch and the place of the entry at fault. -/
structure Flaw where
  place : Nat
  mismatch : Mismatch
  deriving DecidableEq, Repr

/-- A port is a text, or a whole number that stands for its decimal digits. -/
def readPortValue : Toml.Value → Except Mismatch String
  | .text s => .ok s
  | .integer (.ofNat n) => .ok (Text.Decimal.text n)
  | _ => .error (.noVariant "PortValue")

def readText (wanted : Wanted) : Toml.Value → Except Mismatch String
  | .text s => .ok s
  | v => .error (.type v.shape wanted)

def readSeconds : Toml.Value → Except Mismatch UInt64
  | .integer (.ofNat n) => .ok (UInt64.ofNat n)
  | .integer n => .error (.value (.integer n) .count)
  | v => .error (.type v.shape .count)

def placed (place : Nat) (r : Except Mismatch α) : Except Flaw α := r.mapError fun m => ⟨place, m⟩

def readTagEntries : List Toml.Entry → Tags → Except Flaw Tags
  | [], tags => .ok tags
  | (label, v) :: r, tags => do
    let value ← placed label.valueAt (readText .text v)
    readTagEntries r (tags.insert label.name value)

def readTags (place : Nat) : Toml.Value → Except Flaw Tags
  | .table entries => readTagEntries entries ∅
  | .moment written => .ok (Table.insert ∅ Toml.momentKey written)
  | v => .error ⟨place, .type v.shape .map⟩

def readEntry (e : Toml.Entry) (f : FileSettings) : Except Flaw FileSettings :=
  let place := e.1.valueAt
  let v := e.2
  match e.1.name with
  | "port" => do .ok { f with port := ← placed place (readPortValue v) }
  | "data_dir" => do .ok { f with dataDir := ← placed place (readText .path v) }
  | "log_level" => do .ok { f with logLevel := ← placed place (readText .text v) }
  | "log_file" => do .ok { f with logFile := ← placed place (readText .path v) }
  | "name" => do .ok { f with name := ← placed place (readText .text v) }
  | "control_plane" => do .ok { f with controlPlane := ← placed place (readText .text v) }
  | "tags" => do .ok { f with tags := ← readTags place v }
  | "tenant" => do .ok { f with tenant := ← placed place (readText .text v) }
  | "shutdown_timeout_secs" => do
    .ok { f with shutdownTimeoutSecs := ← placed place (readSeconds v) }
  | "heartbeat_interval_secs" => do
    .ok { f with heartbeatIntervalSecs := ← placed place (readSeconds v) }
  | "metrics_address" => do .ok { f with metricsAddress := ← placed place (readText .text v) }
  | key => .error ⟨e.1.keyAt, .unknownKey key keys⟩

def readEntries : Toml.Document → FileSettings → Except Flaw FileSettings
  | [], f => .ok f
  | e :: r, f => do readEntries r (← readEntry e f)

def ofDocument (d : Toml.Document) : Except Flaw FileSettings := readEntries d empty

end FileSettings

end DeviceFleet
