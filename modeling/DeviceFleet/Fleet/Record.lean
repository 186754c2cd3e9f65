import DeviceFleet.Fleet.Key
import DeviceFleet.Fleet.Timestamp
import DeviceFleet.Settings.Tags

/-!
What a store keeps of a device.
-/

namespace DeviceFleet

structure Record where
  tenant : String
  name : String
  tags : Tags
  controlPlane : Option String
  createdAt : Timestamp
  modifiedAt : Timestamp
  deriving DecidableEq, Repr

namespace Record

/-- A record that no store has stamped yet. -/
def new (tenant name : String) : Record := ⟨tenant, name, ∅, none, .epoch, .epoch⟩

def key (r : Record) : Key := ⟨r.tenant, r.name⟩

def withTags (tags : Tags) (r : Record) : Record := { r with tags }

def withTag (k v : String) (r : Record) : Record := { r with tags := r.tags.insert k v }

def withControlPlane (address : String) (r : Record) : Record :=
  { r with controlPlane := some address }

/-- Equal but for the stamps. -/
def sameContent (a b : Record) : Bool :=
  a.tenant = b.tenant && a.name = b.name && a.tags = b.tags && a.controlPlane = b.controlPlane

end Record

end DeviceFleet
