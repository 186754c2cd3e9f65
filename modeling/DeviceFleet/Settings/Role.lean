import DeviceFleet.Mismatch

/-!
The two processes of a fleet: the control plane, and the agent on a device.
-/

namespace DeviceFleet

def programVersion : String := "0.1.0"

inductive Role
  | central
  | device
  deriving DecidableEq, Repr

namespace Role

def name : Role → String
  | .central => "central"
  | .device => "device"

/-- The name of the process in logs and in its default directory. -/
def component : Role → String
  | .central => "wfcentral"
  | .device => "wfdevice"

def defaultPort : Role → String
  | .central => "8080"
  | .device => "9090"

def defaultDataDir (r : Role) : String := "/var/lib/" ++ r.component

def names : List String := [central.name, device.name]

def ofName? (s : String) : Option Role :=
  if s = central.name then some .central else if s = device.name then some .device else none

def toJson (r : Role) : Json := .text r.name

def ofVariant (s : String) : Except Mismatch Role :=
  match ofName? s with
  | some r => .ok r
  | none => .error (.unknownVariant s names)

/-- A role is its name, or an object whose one key is its name and whose value is null. -/
def ofJson : Json → Except Mismatch Role
  | .text s => ofVariant s
  | .object [(s, j)] => do
    let r ← ofVariant s
    match j with
    | .null => .ok r
    | j => .error (.type j.shape .nothing)
  | .object _ => .error (.value .map .singleKey)
  | j => .error (.type j.shape .textOrMap)

end Role

end DeviceFleet
