import DeviceFleet.Text.Cut
import DeviceFleet.Text.Percent
import DeviceFleet.Text.Utf8

/-!
The three routes. A path is matched as it was sent, and only then are the percent codes of its
segments read, so an encoded slash does not divide a segment.
-/

namespace DeviceFleet.Http

/-- Tenant and name are segments as they were sent. -/
inductive Route
  | health
  | devices (tenant : String)
  | device (tenant name : String)
  deriving DecidableEq, Repr

/-- A name is never empty, while a tenant may be. -/
def Route.ofPath? (path : String) : Option Route :=
  match (Text.segments '/' path.toList).map String.ofList with
  | ["", "health"] => some .health
  | ["", "v1", "tenants", tenant, "devices"] => some (.devices tenant)
  | ["", "v1", "tenants", tenant, "devices", name] =>
    if name.isEmpty then none else some (.device tenant name)
  | _ => none

def decodeSegment? (s : String) : Option String :=
  Text.Utf8.decode? (Text.Percent.decode (Text.Utf8.bytes s))

end DeviceFleet.Http
