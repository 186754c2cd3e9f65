import DeviceFleet.Fleet.Store

/-!
Calls of a store as data, and clients: programs that make one call after another, each depending
on the answers so far.
-/

namespace DeviceFleet

inductive Operation
  | create
  | get
  | update
  | delete
  | list
  deriving DecidableEq, Repr

namespace Operation

def all : List Operation := [.create, .get, .update, .delete, .list]

def name : Operation → String
  | .create => "create"
  | .get => "get"
  | .update => "update"
  | .delete => "delete"
  | .list => "list"

end Operation

inductive Request
  | create (r : Record)
  | get (k : Key)
  | update (r : Record)
  | delete (k : Key)
  | list (tenant : String) (token : Option PageToken) (size : Nat)
  deriving DecidableEq, Repr

namespace Request

def operation : Request → Operation
  | .create _ => .create
  | .get _ => .get
  | .update _ => .update
  | .delete _ => .delete
  | .list .. => .list

/-- What a request that succeeds gives. -/
@[reducible] def Answer : Request → Type
  | .create _ => Record
  | .get _ => Record
  | .update _ => Record
  | .delete _ => Unit
  | .list .. => Page

abbrev Result (q : Request) : Type := Except StoreError q.Answer

/-- The key a request is about; a listing has a tenant only. -/
def key : Request → Key
  | .create r => r.key
  | .get k => k
  | .update r => r.key
  | .delete k => k
  | .list tenant .. => ⟨tenant, ""⟩

end Request

def Store.perform (now : Timestamp) (s : Store) : (q : Request) → q.Result × Store
  | .create r => s.create now r
  | .get k => (s.get k, s)
  | .update r => s.update now r
  | .delete k => s.delete k
  | .list tenant token size => (s.list tenant token size, s)

inductive Client (α : Type) : Type
  | done (a : α)
  | call (q : Request) (next : q.Result → Client α)

namespace Client

def bind : Client α → (α → Client β) → Client β
  | .done a, f => f a
  | .call q next, f => .call q fun r => (next r).bind f

def map (f : α → β) (c : Client α) : Client β := c.bind fun a => .done (f a)

/-- Runs a client alone on a store, with one reading of the clock for each call. -/
def runOn (clock : Nat → Timestamp) : Nat → Client α → Store → α × Store
  | _, .done a, s => (a, s)
  | n, .call q next, s =>
    let (r, s) := s.perform (clock n) q
    (next r).runOn clock (n + 1) s

end Client

end DeviceFleet
