import DeviceFleet.Fleet.Request

/-!
Scripts of faults: for each operation of a store, what becomes of its next calls. After the end of
its script an operation works as usual.
-/

namespace DeviceFleet.Simulation

/-- The call goes through, is refused, never returns, or brings its caller down. -/
inductive Cue
  | pass
  | refuse (kind : StoreError.Kind)
  | stall
  | crash
  deriving DecidableEq, Repr

structure Script where
  create : List Cue
  get : List Cue
  update : List Cue
  delete : List Cue
  list : List Cue
  deriving DecidableEq, Repr

namespace Script

def empty : Script := ⟨[], [], [], [], []⟩

def cues (s : Script) : Operation → List Cue
  | .create => s.create
  | .get => s.get
  | .update => s.update
  | .delete => s.delete
  | .list => s.list

def setCues (s : Script) (cs : List Cue) : Operation → Script
  | .create => { s with create := cs }
  | .get => { s with get := cs }
  | .update => { s with update := cs }
  | .delete => { s with delete := cs }
  | .list => { s with list := cs }

def next (op : Operation) (s : Script) : Cue × Script :=
  match s.cues op with
  | [] => (.pass, s)
  | c :: r => (c, s.setCues r op)

end Script

/-- The error of a scripted kind that fits a request. -/
def scriptedError (q : Request) : StoreError.Kind → StoreError
  | .alreadyExists => .alreadyExists q.key
  | .notFound => .notFound q.key
  | .invalidKey => .invalidKey "scripted"
  | .invalidPageToken => .invalidPageToken "scripted"

end DeviceFleet.Simulation
