import DeviceFleet.Fleet.Page
import DeviceFleet.Mismatch

/-!
Keys, records and pages as JSON. A structure is written as an object, and read from an object or
from a list of its fields in order. Of an object the first field that is wrong is reported, then
the first that is missing; fields of other names are passed over.
-/

namespace DeviceFleet

abbrev Decoded (α : Type) := Except Mismatch α

namespace Decode

def text : Json → Decoded String
  | .text s => .ok s
  | j => .error (.type j.shape .text)

def optionalText : Json → Decoded (Option String)
  | .null => .ok none
  | j => do .ok (some (← text j))

def count : Json → Decoded Nat
  | .integer (.ofNat n) => .ok n
  | .integer n => .error (.value (.integer n) .count)
  | j => .error (.type j.shape .count)

def millis (j : Json) : Decoded Timestamp := do .ok (.ofMillis (← count j))

def tagFields : List (String × Json) → Tags → Decoded Tags
  | [], tags => .ok tags
  | (k, j) :: r, tags => do tagFields r (tags.insert k (← text j))

def tags : Json → Decoded Tags
  | .object fields => tagFields fields ∅
  | j => .error (.type j.shape .map)

def required (name : String) : Option α → Decoded α
  | some a => .ok a
  | none => .error (.missing name)

/-- The item of a list at a place, or what stands for it when the list is too short. -/
def item (items : List Json) (i : Nat) (read : Json → Decoded α) (absent : Decoded α) : Decoded α :=
  match items[i]? with
  | some j => read j
  | none => absent

def noMore (items : List Json) (fields : Nat) : Decoded Unit :=
  if items.length > fields then .error (.tooLong items.length) else .ok ()

def each (read : Json → Decoded α) : List Json → Decoded (List α)
  | [] => .ok []
  | j :: r => do
    let a ← read j
    let rest ← each read r
    .ok (a :: rest)

def sequence (read : Json → Decoded α) : Json → Decoded (List α)
  | .list items => each read items
  | j => .error (.type j.shape .sequence)

end Decode

namespace Key

structure Fields where
  tenant : Option String
  name : Option String

def Fields.add (f : Fields) (e : String × Json) : Decoded Fields :=
  if e.1 = "tenant" then do .ok { f with tenant := some (← Decode.text e.2) }
  else if e.1 = "name" then do .ok { f with name := some (← Decode.text e.2) }
  else .ok f

def ofObject (fields : List (String × Json)) : Decoded Key := do
  let f ← fields.foldlM Fields.add ⟨none, none⟩
  let tenant ← Decode.required "tenant" f.tenant
  let name ← Decode.required "name" f.name
  .ok ⟨tenant, name⟩

def ofList (items : List Json) : Decoded Key := do
  let short (n : Nat) : Mismatch := .tooShort n (.structOf "DeviceKey" 2)
  let tenant ← Decode.item items 0 Decode.text (.error (short 0))
  let name ← Decode.item items 1 Decode.text (.error (short 1))
  Decode.noMore items 2
  .ok ⟨tenant, name⟩

def ofJson : Json → Decoded Key
  | .object fields => ofObject fields
  | .list items => ofList items
  | j => .error (.type j.shape (.struct "DeviceKey"))

end Key

namespace Record

def toJson (r : Record) : Json :=
  .object [
    ("control_plane", .ofOption .text r.controlPlane),
    ("created_at", .integer r.createdAt.toMillis),
    ("modified_at", .integer r.modifiedAt.toMillis),
    ("name", .text r.name),
    ("tags", .ofTable .text r.tags),
    ("tenant", .text r.tenant)]

structure Fields where
  tenant : Option String
  name : Option String
  tags : Option Tags
  controlPlane : Option (Option String)
  createdAt : Option Timestamp
  modifiedAt : Option Timestamp

def Fields.add (f : Fields) (e : String × Json) : Decoded Fields :=
  if e.1 = "tenant" then do .ok { f with tenant := some (← Decode.text e.2) }
  else if e.1 = "name" then do .ok { f with name := some (← Decode.text e.2) }
  else if e.1 = "tags" then do .ok { f with tags := some (← Decode.tags e.2) }
  else if e.1 = "control_plane" then do
    .ok { f with controlPlane := some (← Decode.optionalText e.2) }
  else if e.1 = "created_at" then do .ok { f with createdAt := some (← Decode.millis e.2) }
  else if e.1 = "modified_at" then do .ok { f with modifiedAt := some (← Decode.millis e.2) }
  else .ok f

/-- Tags and control plane may be missing. -/
def ofObject (fields : List (String × Json)) : Decoded Record := do
  let f ← fields.foldlM Fields.add ⟨none, none, none, none, none, none⟩
  let tenant ← Decode.required "tenant" f.tenant
  let name ← Decode.required "name" f.name
  let createdAt ← Decode.required "created_at" f.createdAt
  let modifiedAt ← Decode.required "modified_at" f.modifiedAt
  .ok ⟨tenant, name, f.tags.getD ∅, f.controlPlane.getD none, createdAt, modifiedAt⟩

def ofList (items : List Json) : Decoded Record := do
  let short (n : Nat) : Mismatch := .tooShort n (.structOf "DeviceRecord" 6)
  let tenant ← Decode.item items 0 Decode.text (.error (short 0))
  let name ← Decode.item items 1 Decode.text (.error (short 1))
  let tags ← Decode.item items 2 Decode.tags (.ok ∅)
  let controlPlane ← Decode.item items 3 Decode.optionalText (.ok none)
  let createdAt ← Decode.item items 4 Decode.millis (.error (short 4))
  let modifiedAt ← Decode.item items 5 Decode.millis (.error (short 5))
  Decode.noMore items 6
  .ok ⟨tenant, name, tags, controlPlane, createdAt, modifiedAt⟩

def ofJson : Json → Decoded Record
  | .object fields => ofObject fields
  | .list items => ofList items
  | j => .error (.type j.shape (.struct "DeviceRecord"))

end Record

namespace Page

def toJson (p : Page) : Json :=
  .object [
    ("next_page_token", .ofOption (fun t => .text t.text) p.next),
    ("records", .list (p.records.map Record.toJson))]

structure Fields where
  records : Option (List Record)
  next : Option PageToken

def token (j : Json) : Decoded (Option PageToken) := do
  .ok ((← Decode.optionalText j).map PageToken.mk)

def Fields.add (f : Fields) (e : String × Json) : Decoded Fields :=
  if e.1 = "records" then do .ok { f with records := some (← Decode.sequence Record.ofJson e.2) }
  else if e.1 = "next_page_token" then do .ok { f with next := ← token e.2 }
  else .ok f

def ofObject (fields : List (String × Json)) : Decoded Page := do
  let f ← fields.foldlM Fields.add ⟨none, none⟩
  let records ← Decode.required "records" f.records
  .ok ⟨records, f.next⟩

def ofList (items : List Json) : Decoded Page := do
  let short (n : Nat) : Mismatch := .tooShort n (.structOf "Page" 2)
  let records ← Decode.item items 0 (Decode.sequence Record.ofJson) (.error (short 0))
  let next ← Decode.item items 1 token (.error (short 1))
  Decode.noMore items 2
  .ok ⟨records, next⟩

def ofJson : Json → Decoded Page
  | .object fields => ofObject fields
  | .list items => ofList items
  | j => .error (.type j.shape (.struct "Page"))

end Page

end DeviceFleet
