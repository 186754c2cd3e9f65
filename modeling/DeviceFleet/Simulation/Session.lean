import DeviceFleet.Fleet.Pager
import DeviceFleet.Simulation.World
import DeviceFleet.Text.Decimal

/-!
Sessions: a client that uses a store, walks over it with named pagers, and starts and stops
heartbeats on it.
-/

namespace DeviceFleet.Simulation

/-- Where a listing continues: as a token says, one that is checked or one taken as it is, or after
the last page that had a next one. -/
inductive Continuation
  | fromStart
  | token (text : String)
  | rawToken (text : String)
  | lastNext
  deriving DecidableEq, Repr

/-- What a session does at an instant, before any task takes a turn. -/
inductive Action
  | create (r : Record)
  | update (r : Record)
  | get (k : Key)
  | delete (k : Key)
  | list (tenant : String) (size : Nat) (continuation : Continuation)
  | seed (tenant stem : String) (count width : Nat)
  | pagerNew (id tenant : String) (size : Nat) (continuation : Continuation)
  | pagerNext (id : String)
  | pagerCollect (id : String)
  | pagerRestart (id : String)
  | pagerToken (id : String)
  | pagerResume (id : String) (continuation : Continuation)
  | beat (r : Record)
  | state

inductive Outcome
  | record (r : Record)
  | page (p : Page)
  | walk (records : Option (List Record)) (token : Option PageToken)
  | walkRefused (e : StoreError) (token : Option PageToken)
  | refused (e : StoreError)
  | word (text : String)
  | flag (b : Bool)
  | state (isEmpty : Bool) (finished : List Bool) (metrics : Metrics)
  | stuck
  | crashed
  | unknownPager

structure Session where
  world : World
  shutdown : Shutdown
  pagers : Table Pager
  lastNext : Option PageToken

namespace Session

def new (w : World) : Session := ⟨w, .new, ∅, none⟩

/-- Runs a client outside every span. -/
def ask (c : Client α) (answer : α → Session → Outcome × Session) (s : Session) :
    Outcome × Session :=
  match s.world.run none c with
  | (.finished a, w) => answer a { s with world := w }
  | (.stalled _, w) => (.stuck, { s with world := w })
  | (.crashed, w) => (.crashed, { s with world := w })

def call (q : Request) : Client q.Result := .call q .done

def recordOutcome : Except StoreError Record → Outcome
  | .ok r => .record r
  | .error e => .refused e

def pageOutcome : Except StoreError Page → Outcome
  | .ok p => .page p
  | .error e => .refused e

def tokenOf (s : Session) : Continuation → Except StoreError (Option PageToken)
  | .fromStart => .ok none
  | .token t => do .ok (some (← PageToken.parse t))
  | .rawToken t => .ok (some ⟨t⟩)
  | .lastNext => .ok s.lastNext

/-- Remembers the token of a page that has one. -/
def noteNext (r : Except StoreError Page) (s : Session) : Session :=
  match r with
  | .ok ⟨_, some t⟩ => { s with lastNext := some t }
  | _ => s

def padded (width n : Nat) : String :=
  let ds := Text.Decimal.digits n
  String.ofList (List.replicate (width - ds.length) '0' ++ ds)

/-- Creates records with numbered names until one is refused. -/
def seedFrom (tenant stem : String) (width : Nat) : List Nat → Client (Option StoreError)
  | [] => .done none
  | n :: rest => .call (.create (Record.new tenant (stem ++ padded width n))) fun
    | .ok _ => seedFrom tenant stem width rest
    | .error e => .done (some e)

def walkOutcome : Pager.Step → Pager → Outcome
  | .ok records, p => .walk records p.token
  | .error e, p => .walkRefused e p.token

def collectOutcome : Pager.Collection → Pager → Outcome
  | some (.ok records), p => .walk (some records) p.token
  | some (.error e), p => .walkRefused e p.token
  | none, _ => .stuck

def setPager (id : String) (p : Pager) (s : Session) : Session :=
  { s with pagers := s.pagers.insert id p }

def withPager (id : String) (f : Pager → Session → Outcome × Session) (s : Session) :
    Outcome × Session :=
  match s.pagers.get? id with
  | some p => f p s
  | none => (.unknownPager, s)

/-- Each page but the last has a record, so this many pages are enough for any walk. -/
def pagesAllowed (s : Session) : Nat := s.world.store.devices.toNat + 2

def finishedBeaters (s : Session) : List Bool :=
  (s.world.beatersOf .session).map fun b => b.phase.isOver

def perform (s : Session) : Action → Outcome × Session
  | .create r => s.ask (call (.create r)) fun a s => (recordOutcome a, s)
  | .update r => s.ask (call (.update r)) fun a s => (recordOutcome a, s)
  | .get k => s.ask (call (.get k)) fun a s => (recordOutcome a, s)
  | .delete k => s.ask (call (.delete k)) fun
    | .ok (), s => (.word "deleted", s)
    | .error e, s => (.refused e, s)
  | .list tenant size continuation =>
    match s.tokenOf continuation with
    | .error e => (.refused e, s)
    | .ok t => s.ask (call (.list tenant t size)) fun a s => (pageOutcome a, s.noteNext a)
  | .seed tenant stem count width =>
    s.ask (seedFrom tenant stem width (List.range count)) fun
    | none, s => (.word "seeded", s)
    | some e, s => (.refused e, s)
  | .pagerNew id tenant size continuation =>
    match s.tokenOf continuation with
    | .error e => (.refused e, s)
    | .ok t =>
      let p := Pager.new tenant size
      (.word "ready", s.setPager id (match t with
        | some t => p.resume t
        | none => p))
  | .pagerNext id => s.withPager id fun p s =>
    s.ask p.nextPage fun (r, p) s => (walkOutcome r p, s.setPager id p)
  | .pagerCollect id => s.withPager id fun p s =>
    s.ask (p.collectAll s.pagesAllowed) fun (r, p) s => (collectOutcome r p, s.setPager id p)
  | .pagerRestart id => s.withPager id fun p s =>
    (.walk none p.restart.token, s.setPager id p.restart)
  | .pagerToken id => s.withPager id fun p s => (.walk none p.token, s)
  | .pagerResume id continuation => s.withPager id fun p s =>
    match s.tokenOf continuation with
    | .error e => (.walkRefused e p.token, s)
    | .ok (some t) => (.walk none (some t), s.setPager id (p.resume t))
    | .ok none => (.walk none p.token, s)
  | .beat r => s.ask (DeviceFleet.beat r) fun e s =>
    (.word "beaten", { s with world := s.world.reportBeat r none e })
  | .state =>
    (.state (s.world.store.devices = 0) s.finishedBeaters s.world.telemetry.metrics, s)

def onWorld (f : World → World) (s : Session) : Session := { s with world := f s.world }

def startHeartbeat (h : Heartbeat) (s : Session) : Session :=
  s.onWorld (World.spawn h .session none s.shutdown.isOver)

/-- Tells whether this was the first trigger. -/
def trigger (s : Session) : Bool × Session :=
  let (first, shutdown) := s.shutdown.trigger
  (first, { s with shutdown }.onWorld (World.stop .session))

def dropShutdown (s : Session) : Session :=
  { s with shutdown := s.shutdown.abandon }.onWorld (World.stop .session)

end Session

end DeviceFleet.Simulation
