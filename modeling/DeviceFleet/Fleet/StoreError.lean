import DeviceFleet.Fleet.Key

/-!
How a store refuses a call.
-/

namespace DeviceFleet

inductive StoreError
  | alreadyExists (key : Key)
  | notFound (key : Key)
  | invalidKey (reason : String)
  | invalidPageToken (token : String)
  deriving DecidableEq, Repr

namespace StoreError

inductive Kind
  | alreadyExists
  | notFound
  | invalidKey
  | invalidPageToken
  deriving DecidableEq, Repr

def Kind.all : List Kind := [.alreadyExists, .notFound, .invalidKey, .invalidPageToken]

def Kind.name : Kind → String
  | .alreadyExists => "already_exists"
  | .notFound => "not_found"
  | .invalidKey => "invalid_key"
  | .invalidPageToken => "invalid_page_token"

def kind : StoreError → Kind
  | .alreadyExists _ => .alreadyExists
  | .notFound _ => .notFound
  | .invalidKey _ => .invalidKey
  | .invalidPageToken _ => .invalidPageToken

def message : StoreError → String
  | .alreadyExists k => "device " ++ k.text ++ " already exists"
  | .notFound k => "device " ++ k.text ++ " not found"
  | .invalidKey reason => "invalid device key: " ++ reason
  | .invalidPageToken token => "invalid page token: " ++ token

end StoreError

def checkTenant (tenant : String) : Except StoreError Unit :=
  if Text.isBlank tenant then .error (.invalidKey "tenant must not be empty") else .ok ()

/-- A key has a tenant and a name that are not blank. -/
def Key.check (k : Key) : Except StoreError Unit := do
  checkTenant k.tenant
  if Text.isBlank k.name then .error (.invalidKey "device name must not be empty") else .ok ()

end DeviceFleet
