import DeviceFleet.Json.Value
import DeviceFleet.Text.Blank

/-!
What identifies a device: its tenant and its name there.
-/

namespace DeviceFleet

structure Key where
  tenant : String
  name : String
  deriving DecidableEq, Repr

namespace Key

def text (k : Key) : String := k.tenant ++ "/" ++ k.name

/-- Keys order by tenant, then by name. -/
def before (a b : Key) : Bool := a.tenant < b.tenant || (a.tenant = b.tenant && a.name < b.name)

/-- Puts a key in its place among ascending keys, unless it is there. -/
def place (k : Key) : List Key → List Key
  | [] => [k]
  | j :: r => if k.before j then k :: j :: r else if j = k then j :: r else j :: place k r

def sortDistinct (ks : List Key) : List Key := ks.foldl (fun r k => place k r) []

def toJson (k : Key) : Json := .object [("name", .text k.name), ("tenant", .text k.tenant)]

end Key

end DeviceFleet
