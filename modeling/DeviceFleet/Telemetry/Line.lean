import DeviceFleet.Json.Printer
import DeviceFleet.Telemetry.Event

/-!
Log lines: one JSON object for each record, with the span that encloses it.
-/

namespace DeviceFleet

def Scope.toJson (s : Scope) : Json :=
  .object [
    ("boot_ts", .integer s.bootedAt.toMillis),
    ("component", .text s.component),
    ("name", .text "process")]

def LogRecord.toJson (written : Timestamp) (r : LogRecord) : Json :=
  .ofFields ([
    ("fields", .ofFields (("message", .text r.event.message) :: r.event.fields)),
    ("level", .text r.event.severity.name),
    ("spans", .list (r.scope.toList.map Scope.toJson)),
    ("target", .text r.event.target),
    ("timestamp", .integer written.toMillis)] ++ r.scope.toList.map fun s => ("span", s.toJson))

def LogRecord.line (written : Timestamp) (r : LogRecord) : String := (r.toJson written).render

end DeviceFleet
