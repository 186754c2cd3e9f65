import DeviceFleet.Fleet.Record
import DeviceFleet.Fleet.StoreError
import DeviceFleet.Text.Hex
import DeviceFleet.Text.Utf8

/-!
Pages of a tenant's records, and the tokens that ask for the next one. A token is the last name of
a page, its bytes in lowercase hexadecimal.
-/

namespace DeviceFleet

structure PageToken where
  text : String
  deriving DecidableEq, Repr

namespace PageToken

def after (name : String) : PageToken := ⟨String.ofList (Text.Hex.encode (Text.Utf8.bytes name))⟩

/-- The name a token continues after. -/
def lastName? (t : PageToken) : Option String :=
  if t.text.isEmpty then none else (Text.Hex.decode t.text.toList).bind Text.Utf8.decode?

def lastName (t : PageToken) : Except StoreError String :=
  match t.lastName? with
  | some name => .ok name
  | none => .error (.invalidPageToken t.text)

/-- A token as received from a caller. -/
def parse (s : String) : Except StoreError PageToken :=
  match (PageToken.mk s).lastName with
  | .ok _ => .ok ⟨s⟩
  | .error e => .error e

end PageToken

/-- Some records in ascending order of their names; a token tells that more may follow. -/
structure Page where
  records : List Record
  next : Option PageToken
  deriving DecidableEq, Repr

def defaultPageSize : Nat := 100

def maxPageSize : Nat := 1000

/-- How many records a page holds: zero asks for the default, and no page exceeds the maximum. -/
def effectivePageSize (requested : Nat) : Nat :=
  if requested = 0 then defaultPageSize else min requested maxPageSize

end DeviceFleet
