import DeviceFleet.Proofs.Agent.Assurance
import DeviceFleet.Proofs.Fleet.Following
import DeviceFleet.Proofs.Http.Paths
import DeviceFleet.Proofs.Http.Queries

/-! What the read-only interface shows of a store: each device under its own path and no other, and
the pages of each tenant as the store itself gives them. Nothing asked of it changes the store. -/

namespace DeviceFleet

open Text

namespace Http

/-- Answers one request over a store that nobody else uses meanwhile. -/
def serve (clock : Nat → Timestamp) (h : Health) (method : String) (uri : Uri) (s : Store) :
    Response × Store := (respond h method uri).runOn clock 0 s

def Response.nextToken? (r : Response) : Option String :=
  match r.body with
  | .json j =>
    match j.field? "next_page_token" with
    | some (.text t) => some t
    | _ => none
  | _ => none

def listing (tenant : List Char) (size : Option UInt64) (token : Option String) : Uri :=
  ⟨String.ofList (devicesPath tenant), form (listPairs size token)⟩

/-- Asks for one page of a tenant after another, each with the token in the answer before, for as
long as there is one and calls are left. -/
def walk (clock : Nat → Timestamp) (h : Health) (tenant : List Char) :
    (calls : Nat) → (sizes : Nat → Option UInt64) → Option String → Store → List Response × Store
  | 0, _, _, s => ([], s)
  | calls + 1, sizes, token, s =>
    let (response, s) := serve clock h "GET" (listing tenant (sizes 0) token) s
    match response.nextToken? with
    | none => ([response], s)
    | some t =>
      let (rest, s) := walk clock h tenant calls (fun i => sizes (i + 1)) (some t) s
      (response :: rest, s)

variable {clock : Nat → Timestamp} {h : Health} {s : Store} {segment : List Char} {tenant : String}
  {size : Option UInt64} {token : Option String}

end Http

end DeviceFleet
