import DeviceFleet.Mismatch

/-!
The values of a TOML document, in the order in which it writes them, each with the places of its
key and of its value.
-/

namespace DeviceFleet.Toml

/-- The name of an entry, and where in the text the key and the value begin. -/
structure Label where
  name : String
  keyAt : Nat
  valueAt : Nat
  deriving DecidableEq, Repr

inductive Value
  | text (s : String)
  | integer (n : Int)
  | number (x : Binary64)
  | boolean (b : Bool)
  | moment (written : String)
  | array (items : List Value)
  | table (entries : List (Label × Value))
  deriving Repr

instance : Inhabited Value := ⟨.boolean false⟩

abbrev Entry := Label × Value

/-- The top-level entries of a well-formed text. -/
abbrev Document := List Entry

/-- A date or time reads as a map with one entry. -/
def momentKey : String := "$__toml_private_datetime"

def Value.shape : Value → Shape
  | .text s => .text s
  | .integer n => .integer n
  | .number x => .number x.text
  | .boolean b => .boolean b
  | .moment _ => .map
  | .array _ => .sequence
  | .table _ => .map

end DeviceFleet.Toml
