import DeviceFleet.Http.Query
import DeviceFleet.Fleet.Page
import DeviceFleet.Proofs.Text.Decimal
import DeviceFleet.Proofs.Text.Encoding
import DeviceFleet.Proofs.Text.Segments
import DeviceFleet.Proofs.Text.Trimming

/-! The queries of listings, as pairs of a form: they are read as they were meant, whatever page size
they ask for and whichever token of a store they carry. -/

namespace DeviceFleet.Http

open Text

section Forms

variable {cs : List Char} {pairs : List (String × String)}

def formPair (pair : String × String) : List Char := pair.1.toList ++ '=' :: pair.2.toList

def form (pairs : List (String × String)) : String :=
  String.ofList (['&'].intercalate (pairs.map formPair))

end Forms

section Listings

variable {size : Option UInt64} {token : Option String}

/-- What a listing asks for; without a size the store chooses one. -/
def listPairs (size : Option UInt64) (token : Option String) : List (String × String) :=
  size.toList.map (fun n => ("page_size", Decimal.text n.toNat)) ++
    token.toList.map (fun t => ("page_token", t))

end Listings

end DeviceFleet.Http
