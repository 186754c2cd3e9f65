import DeviceFleet.Fleet.Codec
import DeviceFleet.Fleet.Request
import DeviceFleet.Http.Query
import DeviceFleet.Http.Route
import DeviceFleet.Http.Uri
import DeviceFleet.Lifecycle.State
import DeviceFleet.Settings.Role

/-!
The read-only interface: the health of the process, one page of a tenant's devices, one device. A
request is answered by a client of the store that calls it at most once.
-/

namespace DeviceFleet.Http

inductive Body
  | empty
  | text (s : String)
  | json (j : Json)

structure Response where
  status : Nat
  contentType : Option String
  allow : Option String
  body : Body

namespace Response

def bare (status : Nat) : Response := ⟨status, none, none, .empty⟩

def ofJson (status : Nat) (j : Json) : Response := ⟨status, some "application/json", none, .json j⟩

def ofText (status : Nat) (s : String) : Response :=
  ⟨status, some "text/plain; charset=utf-8", none, .text s⟩

def notFound : Response := bare 404

def methodNotAllowed : Response := { bare 405 with allow := some "GET,HEAD" }

def withoutBody (r : Response) : Response := { r with body := .empty }

def statusOf : StoreError → Nat
  | .notFound _ => 404
  | .alreadyExists _ => 409
  | .invalidKey _ => 400
  | .invalidPageToken _ => 400

def ofStoreError (e : StoreError) : Response :=
  ofJson (statusOf e) (.object [("error", .text e.kind.name), ("message", .text e.message)])

def ofQueryFlaw (f : QueryFlaw) : Response := ofText 400 f.message

/-- The answer to a path whose segment of that name is no text. -/
def notText (segment : String) : Response :=
  ofText 400 ("Invalid URL: Invalid UTF-8 in `" ++ segment ++ "`")

def ofResult (toJson : α → Json) : Except StoreError α → Response
  | .ok a => ofJson 200 (toJson a)
  | .error e => ofStoreError e

end Response

/-- What a process says about itself. -/
structure Health where
  role : Role
  state : Lifecycle
  deriving DecidableEq, Repr

def Health.toJson (h : Health) : Json :=
  .object [
    ("component", .text h.role.component),
    ("state", .text h.state.name),
    ("status", .text (if h.state = .running then "ok" else "draining")),
    ("version", .text programVersion)]

def readToken (p : ListParams) : Except StoreError (Option PageToken) :=
  match p.token? with
  | none => .ok none
  | some t => do .ok (some (← PageToken.parse t))

def listDevices (tenant : String) (p : ListParams) : Client Response :=
  match readToken p with
  | .error e => .done (.ofStoreError e)
  | .ok token => .call (.list tenant token p.size) fun r => .done (.ofResult Page.toJson r)

def getDevice (k : Key) : Client Response :=
  .call (.get k) fun r => .done (.ofResult Record.toJson r)

def answer (h : Health) (query : String) : Route → Client Response
  | .health => .done (.ofJson 200 h.toJson)
  | .devices tenant =>
    match decodeSegment? tenant with
    | none => .done (.notText "tenant")
    | some tenant =>
      match ListParams.parse query with
      | .error flaw => .done (.ofQueryFlaw flaw)
      | .ok p => listDevices tenant p
  | .device tenant name =>
    match decodeSegment? tenant, decodeSegment? name with
    | none, _ => .done (.notText "tenant")
    | some _, none => .done (.notText "name")
    | some tenant, some name => getDevice ⟨tenant, name⟩

/-- Only reading is allowed; `HEAD` is answered as `GET` is, without the body. -/
def respond (h : Health) (method : String) (uri : Uri) : Client Response :=
  match Route.ofPath? uri.path with
  | none => .done .notFound
  | some route =>
    if method = "GET" then answer h uri.query route
    else if method = "HEAD" then (answer h uri.query route).map Response.withoutBody
    else .done .methodNotAllowed

def isMethodChar (c : Char) : Bool :=
  Uri.isAlphanumeric c ||
    c ∈ ['!', '#', '$', '%', '&', '\'', '*', '+', '-', '.', '^', '_', '\x60', '|', '~']

def isMethod (s : String) : Bool := !s.isEmpty && s.toList.all isMethodChar

end DeviceFleet.Http
