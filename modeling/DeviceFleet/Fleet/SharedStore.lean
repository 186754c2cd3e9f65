import DeviceFleet.Fleet.Request

/-!
Several callers of one store. A call takes some steps, and between any two of them others may take
theirs. A creation files and counts its record in one step, and holds the shard of its tenant until
it has set the gauge of records. A deletion takes its record out, drops the shard if that is empty
by then, discounts the record, and sets the gauge.
-/

namespace DeviceFleet

/-- How far a call has got. The last step but one of a call that changed how many records there are
knows the number to set the gauge to. -/
inductive Caller
  | waiting (q : Request)
  | created (asked stamped : Record) (devices : Int)
  | tookOut (k : Key)
  | droppedEmpty (k : Key)
  | discounted (k : Key) (devices : Int)
  | answered (q : Request) (result : q.Result)

namespace Caller

def request : Caller → Request
  | .waiting q => q
  | .created asked _ _ => .create asked
  | .tookOut k => .delete k
  | .droppedEmpty k => .delete k
  | .discounted k _ => .delete k
  | .answered q _ => q

def isAnswered : Caller → Bool
  | .answered .. => true
  | _ => false

/-- The tenant whose shard the next step uses, if it uses one that it does not hold. -/
def needs? : Caller → Option String
  | .waiting q => some q.key.tenant
  | .tookOut k => some k.tenant
  | _ => none

end Caller

/-- What callers share; `held` are the tenants whose shards others may not use now. -/
structure SharedStore where
  store : Store
  held : List String
  gauge : Option Int

namespace SharedStore

def ofStore (s : Store) : SharedStore := ⟨s, [], none⟩

def beginCreate (now : Timestamp) (r : Record) (s : SharedStore) : Caller × SharedStore :=
  match s.store.create now r with
  | (.ok stamped, store) =>
    (.created r stamped store.devices, { s with store, held := r.tenant :: s.held })
  | (.error e, store) => (.answered (.create r) (.error e), { s with store })

def beginDelete (k : Key) (s : SharedStore) : Caller × SharedStore :=
  match k.check with
  | .error e => (.answered (.delete k) (.error e), s)
  | .ok () =>
    match s.store.takeOut k with
    | (true, store) => (.tookOut k, { s with store })
    | (false, store) => (.answered (.delete k) (.error (.notFound k)), { s with store })

/-- All of a call that takes one step only. -/
def performAtOnce (now : Timestamp) (q : Request) (s : SharedStore) : Caller × SharedStore :=
  let (r, store) := s.store.perform now q
  (.answered q r, { s with store })

def begin (now : Timestamp) (s : SharedStore) : Request → Caller × SharedStore
  | .create r => s.beginCreate now r
  | .delete k => s.beginDelete k
  | q => s.performAtOnce now q

/-- The next step of a call that need not wait. -/
def advance (now : Timestamp) (s : SharedStore) : Caller → Caller × SharedStore
  | .waiting q => s.begin now q
  | .created asked stamped devices =>
    (.answered (.create asked) (.ok stamped),
      { s with held := s.held.erase asked.tenant, gauge := some devices })
  | .tookOut k => (.droppedEmpty k, { s with store := s.store.dropEmpty k.tenant })
  | .droppedEmpty k =>
    (.discounted k s.store.discount.devices, { s with store := s.store.discount })
  | .discounted k devices => (.answered (.delete k) (.ok ()), { s with gauge := some devices })
  | .answered q r => (.answered q r, s)

/-- The next step of a call, unless it has to wait for a shard. -/
def step (now : Timestamp) (s : SharedStore) (c : Caller) : Caller × SharedStore :=
  if c.needs?.any s.held.contains then (c, s) else s.advance now c

end SharedStore

/-- Callers by number, with what they share. -/
structure Crowd where
  callers : List Caller
  shared : SharedStore

namespace Crowd

def ofRequests (s : Store) (qs : List Request) : Crowd := ⟨qs.map .waiting, .ofStore s⟩

/-- One caller takes a step. -/
def step (now : Timestamp) (i : Nat) (c : Crowd) : Crowd :=
  match c.callers[i]? with
  | none => c
  | some caller =>
    let (caller, shared) := c.shared.step now caller
    ⟨c.callers.set i caller, shared⟩

/-- An interleaving: who takes a step, and when. -/
def run (c : Crowd) (turns : List (Nat × Timestamp)) : Crowd :=
  turns.foldl (fun c turn => c.step turn.2 turn.1) c

def isQuiet (c : Crowd) : Bool := c.callers.all Caller.isAnswered

def sweep (now : Timestamp) : List Caller → SharedStore → List Caller × SharedStore
  | [], s => ([], s)
  | c :: r, s =>
    let (c, s) := s.step now c
    let (r, s) := sweep now r s
    (c :: r, s)

/-- Every caller takes one turn. -/
def round (now : Timestamp) (c : Crowd) : Crowd :=
  let (callers, shared) := sweep now c.callers c.shared
  ⟨callers, shared⟩

def rounds (now : Timestamp) : Nat → Crowd → Crowd
  | 0, c => c
  | n + 1, c => if c.isQuiet then c else rounds now n (c.round now)

/-- No call takes more than four steps and in each round one is taken, so all calls end. -/
def settle (now : Timestamp) (c : Crowd) : Crowd := c.rounds now (4 * c.callers.length)

end Crowd

end DeviceFleet
