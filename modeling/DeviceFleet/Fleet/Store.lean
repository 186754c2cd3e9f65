import DeviceFleet.Fleet.Page

/-!
The store of a fleet: for each tenant a shard with its records by name, and a count of all records.
An operation takes the reading of the clock and gives its answer with the store after it. What runs
as one step when several callers share a store is a definition of its own.
-/

namespace DeviceFleet

structure Store where
  shards : Table (Table Record)
  devices : Int
  deriving DecidableEq, Repr

namespace Store

def empty : Store := ⟨∅, 0⟩

/-- The shard of a tenant; a tenant without records has none. -/
def shard (s : Store) (tenant : String) : Table Record := (s.shards.get? tenant).getD ∅

def record? (s : Store) (k : Key) : Option Record := (s.shard k.tenant).get? k.name

def tenantCount (s : Store) : Nat := s.shards.size

/-- A shard that is there from now on, an empty one if the tenant had none. -/
def openShard (tenant : String) (s : Store) : Store :=
  { s with shards := s.shards.insert tenant (s.shard tenant) }

/-- Files a new record under its key and counts it, unless the key is taken. The shard is opened
before that is known. -/
def enroll (now : Timestamp) (r : Record) (s : Store) : Except StoreError Record × Store :=
  let s := s.openShard r.tenant
  match s.record? r.key with
  | some _ => (.error (.alreadyExists r.key), s)
  | none =>
    let stamped := { r with createdAt := now, modifiedAt := now }
    (.ok stamped,
      ⟨s.shards.insert r.tenant ((s.shard r.tenant).insert r.name stamped), s.devices + 1⟩)

/-- Gives a record new tags and control plane; its last change never moves back. -/
def revise (now : Timestamp) (r : Record) (s : Store) : Except StoreError Record × Store :=
  match s.record? r.key with
  | none => (.error (.notFound r.key), s)
  | some old =>
    let revised := { old with
      tags := r.tags
      controlPlane := r.controlPlane
      modifiedAt := Timestamp.latest now old.modifiedAt }
    (.ok revised,
      { s with shards := s.shards.insert r.tenant ((s.shard r.tenant).insert r.name revised) })

/-- First step of a deletion: takes the record out of its shard, which may be left empty. -/
def takeOut (k : Key) (s : Store) : Bool × Store :=
  match s.record? k with
  | none => (false, s)
  | some _ =>
    (true, { s with shards := s.shards.insert k.tenant ((s.shard k.tenant).erase k.name) })

/-- Second step of a deletion: drops the tenant's shard if it is empty by now. -/
def dropEmpty (tenant : String) (s : Store) : Store :=
  match s.shards.get? tenant with
  | some t => if t.isEmpty then { s with shards := s.shards.erase tenant } else s
  | none => s

/-- Third step of a deletion: the record no longer counts. -/
def discount (s : Store) : Store := { s with devices := s.devices - 1 }

def create (now : Timestamp) (r : Record) (s : Store) : Except StoreError Record × Store :=
  match r.key.check with
  | .error e => (.error e, s)
  | .ok () => s.enroll now r

def get (k : Key) (s : Store) : Except StoreError Record :=
  match k.check with
  | .error e => .error e
  | .ok () =>
    match s.record? k with
    | some r => .ok r
    | none => .error (.notFound k)

def update (now : Timestamp) (r : Record) (s : Store) : Except StoreError Record × Store :=
  match r.key.check with
  | .error e => (.error e, s)
  | .ok () => s.revise now r

def delete (k : Key) (s : Store) : Except StoreError Unit × Store :=
  match k.check with
  | .error e => (.error e, s)
  | .ok () =>
    match s.takeOut k with
    | (true, s) => (.ok (), discount (dropEmpty k.tenant s))
    | (false, s) => (.error (.notFound k), s)

/-- The records of a tenant with names beyond the given one, in ascending order. -/
def recordsAfter (tenant : String) (name : Option String) (s : Store) : List Record :=
  match name with
  | none => (s.shard tenant).values
  | some n => ((s.shard tenant).after n).values

/-- As many records as a page holds, and a token if one more is there. -/
def pageOf (size : Nat) (records : List Record) : Page where
  records := records.take size
  next :=
    if records.length > size then
      (records.take size).getLast?.map fun r => PageToken.after r.name
    else none

def list (tenant : String) (token : Option PageToken) (size : Nat) (s : Store) :
    Except StoreError Page :=
  match checkTenant tenant with
  | .error e => .error e
  | .ok () =>
    match token with
    | none => .ok (pageOf (effectivePageSize size) (s.recordsAfter tenant none))
    | some t =>
      match t.lastName with
      | .error e => .error e
      | .ok name => .ok (pageOf (effectivePageSize size) (s.recordsAfter tenant (some name)))

end Store

end DeviceFleet
