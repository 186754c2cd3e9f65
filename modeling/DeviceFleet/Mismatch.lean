import DeviceFleet.Json.Value
import DeviceFleet.Number.Shortest
import DeviceFleet.Text.Quoted

/-!
How written data can fail to be what a reader wants, and how a message says so.
-/

namespace DeviceFleet

/-- What a reader found. A number with a fraction is kept as its format writes it. -/
inductive Shape
  | null
  | boolean (b : Bool)
  | integer (n : Int)
  | number (written : String)
  | text (s : String)
  | sequence
  | map
  deriving DecidableEq, Repr

def Shape.phrase : Shape → String
  | .null => "null"
  | .boolean b => "boolean `" ++ (if b then "true" else "false") ++ "`"
  | .integer n => "integer `" ++ Text.Decimal.signedText n ++ "`"
  | .number written => "floating point `" ++ written ++ "`"
  | .text s => "string " ++ Text.quoted s
  | .sequence => "sequence"
  | .map => "map"

/-- What a reader wants. -/
inductive Wanted
  | text
  | path
  | count
  | map
  | sequence
  | nothing
  | textOrMap
  | singleKey
  | struct (name : String)
  | structOf (name : String) (fields : Nat)
  deriving DecidableEq, Repr

def Wanted.phrase : Wanted → String
  | .text => "a string"
  | .path => "path string"
  | .count => "u64"
  | .map => "a map"
  | .sequence => "a sequence"
  | .nothing => "unit"
  | .textOrMap => "string or map"
  | .singleKey => "map with a single key"
  | .struct name => "struct " ++ name
  | .structOf name fields =>
    "struct " ++ name ++ " with " ++ Text.Decimal.text fields ++
      (if fields = 1 then " element" else " elements")

inductive Mismatch
  | type (found : Shape) (wanted : Wanted)
  | value (found : Shape) (wanted : Wanted)
  | missing (field : String)
  | tooShort (length : Nat) (wanted : Wanted)
  | tooLong (length : Nat)
  | unknownKey (key : String) (known : List String)
  | unknownVariant (name : String) (known : List String)
  | noVariant (of : String)
  deriving DecidableEq, Repr

def Mismatch.named (s : String) : String := "`" ++ s ++ "`"

def Mismatch.message : Mismatch → String
  | .type found wanted => "invalid type: " ++ found.phrase ++ ", expected " ++ wanted.phrase
  | .value found wanted => "invalid value: " ++ found.phrase ++ ", expected " ++ wanted.phrase
  | .missing field => "missing field " ++ named field
  | .tooShort n wanted => "invalid length " ++ Text.Decimal.text n ++ ", expected " ++ wanted.phrase
  | .tooLong n =>
    "invalid length " ++ Text.Decimal.text n ++ ", expected fewer elements in array"
  | .unknownKey key known =>
    "unknown field " ++ named key ++ ", expected one of " ++ ", ".intercalate (known.map named)
  | .unknownVariant name known =>
    "unknown variant " ++ named name ++ ", expected " ++ " or ".intercalate (known.map named)
  | .noVariant of => "data did not match any variant of untagged enum " ++ of

def Json.shape : Json → Shape
  | .null => .null
  | .boolean b => .boolean b
  | .integer n => .integer n
  | .number x => .number x.compactText
  | .text s => .text s
  | .list _ => .sequence
  | .object _ => .map

end DeviceFleet
