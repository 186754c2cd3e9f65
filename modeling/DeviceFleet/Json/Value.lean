import DeviceFleet.Number.Binary64
import DeviceFleet.Table

/-!
JSON values. Whole numbers from -2^63 to 2^64 - 1 are kept exactly, all others as
double-precision numbers. The fields of an object are in ascending order of their names.
-/

namespace DeviceFleet

inductive Json
  | null
  | boolean (b : Bool)
  | integer (n : Int)
  | number (x : Binary64)
  | text (s : String)
  | list (items : List Json)
  | object (fields : List (String × Json))
  deriving Repr

namespace Json

instance : Inhabited Json := ⟨.null⟩

def ofOption (f : α → Json) : Option α → Json
  | none => .null
  | some a => f a

def ofTable (f : α → Json) (t : Table α) : Json :=
  .object (t.entries.map fun e => (e.1, f e.2))

/-- An object from fields in any order; of two with one name the later counts. -/
def ofFields (fields : List (String × Json)) : Json :=
  .object (fields.foldl (fun fs f => Table.putEntry f.1 f.2 fs) [])

def field? (name : String) : Json → Option Json
  | .object fields => fields.lookup name
  | _ => none

end Json

end DeviceFleet
