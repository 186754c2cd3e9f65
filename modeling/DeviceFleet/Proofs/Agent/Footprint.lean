import DeviceFleet.Proofs.Agent.Assurance
import DeviceFleet.Simulation.Run

/-! What a whole run leaves in the store it has found: the record of its own device at most, and none
unless it came to serve. -/

namespace DeviceFleet

namespace RunLoop

/-- The loop has come as far as to serve. -/
def served : RunLoop → Bool
  | .serving => true
  | .ended .completed => true
  | _ => false

def isAbsent : RunLoop → Bool
  | .absent => true
  | _ => false

/-- The service of a loop that is about to begin. -/
def service? : RunLoop → Option Service
  | .spawned s => some s
  | _ => none

lemma served_of_isAbsent {loop : RunLoop} (h : loop.isAbsent = true) : loop.served = false := by
  cases loop with
  | absent => rfl
  | spawned | registering | serving | ended => cases h

end RunLoop

/-- The record that a run registers, if its settings are accepted and those of a device. -/
def Draft.ownRecord? (cwd : String) (d : Draft) : Option Record :=
  match d.build cwd with
  | .ok s => s.deviceRecord?
  | .error _ => none

namespace Simulation

namespace World

variable {w w' w'' : World} {own : Record} {own? : Option Record} {served : Bool} {found : Store}

/-- The records that heartbeats keep fresh. -/
def tended (w : World) : List Record := w.beaters.map fun b => b.heartbeat.record

lemma tended_run {α : Type} (scope : Option Scope) (c : Client α) (w : World) :
    (w.run scope c).2.tended = w.tended := by
  rw [tended, tended, beaters_run]

structure Spares (w w' : World) : Prop where
  store : w'.store = w.store
  tended : w'.tended = w.tended

lemma Spares.trans (h : w.Spares w') (h' : w'.Spares w'') : w.Spares w'' :=
  ⟨h'.store.trans h.store, h'.tended.trans h.tended⟩

lemma spares_stop (owner : Owner) (w : World) : w.Spares (w.stop owner) := by
  refine ⟨rfl, ?_⟩
  simp only [tended, stop, List.map_map]
  refine List.map_congr_left fun b _ => ?_
  dsimp only [Function.comp]
  split <;> rfl

lemma spares_reportBeat (r : Record) (scope : Option Scope) (e : BeatEnd) (w : World) :
    w.Spares (w.reportBeat r scope e) := by
  rw [reportBeat]
  cases e.event? r <;> exact ⟨rfl, rfl⟩

structure Tends (own : Record) (found : Store) (w : World) : Prop where
  store : Store.Registers own found w.store
  tended : ∀ r ∈ w.tended, r.sameContent own

lemma Tends.spares (h : w.Tends own found) (hw : w.Spares w') : w'.Tends own found :=
  ⟨hw.store ▸ h.store, hw.tended ▸ h.tended⟩

/-- A heartbeat at its turn, and the world around it. -/
def Attends (own : Record) (found : Store) (x : Beater × World) : Prop :=
  x.2.Tends own found ∧ x.1.heartbeat.record.sameContent own

lemma attends_runBeat {b : Beater} (h : Attends own found (b, w)) (ticker : Ticker) :
    Attends own found (w.runBeat b ticker (beat b.heartbeat.record)) := by
  obtain ⟨hw, hb⟩ := h
  have hmet := meets_run b.scope (assures_beat hw.store hb)
  have htended := tended_run b.scope (beat b.heartbeat.record) w
  rw [runBeat]
  generalize w.run b.scope (beat b.heartbeat.record) = ran at hmet htended
  obtain ⟨progress, w'⟩ := ran
  have htends (hstore : Store.Registers own found w'.store) : w'.Tends own found :=
    ⟨hstore, htended ▸ hw.tended⟩
  cases progress with
  | finished e => exact ⟨(htends hmet).spares (spares_reportBeat _ _ e w'), hb⟩
  | stalled | crashed => exact ⟨htends hmet, hb⟩

lemma attends_advanceBeater {b : Beater} (h : Attends own found (b, w)) :
    Attends own found (w.advanceBeater b) := by
  refine advanceBeater_keeps (fun b w hb => ?_) (fun b w ticker hb => ?_) (fun b w hb => ?_) h
  · exact ⟨hb.1.spares ⟨rfl, rfl⟩, hb.2⟩
  · exact attends_runBeat hb ticker
  · exact ⟨hb.1.spares ⟨rfl, rfl⟩, hb.2⟩

lemma attends_beatFirst {b : Beater} (h : Attends own found (b, w)) :
    Attends own found (w.beatFirst b) :=
  beatFirst_keeps (fun _ _ _ => attends_runBeat h _) h

lemma Tends.withBeater (h : w.Tends own found) (i : Nat) {f : Beater → World → Beater × World}
    (hf : ∀ b, Attends own found (b, w) → Attends own found (f b w)) :
    (w.withBeater i f).Tends own found := by
  rw [World.withBeater]
  cases hb : w.beaters[i]? with
  | none => exact h
  | some b =>
    have hmem : b ∈ w.beaters := List.mem_of_getElem? hb
    obtain ⟨hw, hrecord⟩ := hf b ⟨h, h.tended _ (List.mem_map_of_mem hmem)⟩
    refine ⟨hw.store, fun r hr => ?_⟩
    obtain ⟨b', hb', rfl⟩ := List.mem_map.mp hr
    rcases List.mem_or_eq_of_mem_set hb' with hb' | rfl
    · exact hw.tended _ (List.mem_map_of_mem hb')
    · exact hrecord

structure Untouched (found : Store) (w : World) : Prop where
  store : w.store = found
  tended : w.tended = []

lemma Untouched.spares (h : w.Untouched found) (hw : w.Spares w') : w'.Untouched found :=
  ⟨hw.store.trans h.store, hw.tended.trans h.tended⟩

lemma Untouched.withBeater (h : w.Untouched found) (i : Nat)
    (f : Beater → World → Beater × World) : (w.withBeater i f).Untouched found := by
  have hnone : w.beaters = [] := List.map_eq_nil_iff.mp h.tended
  exact (withBeater_of_nil hnone i f).symm ▸ h

/-- The store is as it was found until a device serves, and then but for the record of the device. -/
structure Footprint (own? : Option Record) (served : Bool) (found : Store) (w : World) : Prop where
  device : ∀ own, own? = some own → served = true → w.Tends own found
  idle : own? = none ∨ served = false → w.Untouched found

lemma Footprint.spares (h : w.Footprint own? served found) (hw : w.Spares w') :
    w'.Footprint own? served found :=
  ⟨fun own hown hserved => (h.device own hown hserved).spares hw, fun hidle =>
    (h.idle hidle).spares hw⟩

lemma Footprint.withBeater (h : w.Footprint own? served found) (i : Nat)
    {f : Beater → World → Beater × World}
    (hf : ∀ own b, Attends own found (b, w) → Attends own found (f b w)) :
    (w.withBeater i f).Footprint own? served found :=
  ⟨fun own hown hserved => (h.device own hown hserved).withBeater i (hf own),
    fun hidle => (h.idle hidle).withBeater i f⟩

end World

namespace Run

variable {r r' r'' : Run} {d : Draft} {cwd : String} {found : Store} {s : Service}

/-- The run loop, the store and the heartbeats are left as they are. -/
structure Spares (r r' : Run) : Prop where
  draft : r'.plan.draft = r.plan.draft
  place : r'.machine.cwd = r.machine.cwd
  loop : r'.loop = r.loop
  phase : r'.supervisor.phase = .initializing → r.supervisor.phase = .initializing
  world : r.session.world.Spares r'.session.world

lemma Spares.refl (r : Run) : r.Spares r := ⟨rfl, rfl, rfl, id, rfl, rfl⟩

lemma Spares.trans (h : r.Spares r') (h' : r'.Spares r'') : r.Spares r'' :=
  ⟨h'.draft.trans h.draft, h'.place.trans h.place, h'.loop.trans h.loop, h.phase ∘ h'.phase,
    h.world.trans h'.world⟩

lemma spares_onWorld {f : World → World} (h : r.session.world.Spares (f r.session.world)) :
    r.Spares (r.onWorld f) := ⟨rfl, rfl, rfl, id, h⟩

lemma spares_onSchedule (f : Schedule → Schedule) (r : Run) : r.Spares (r.onSchedule f) :=
  spares_onWorld ⟨rfl, rfl⟩

lemma spares_log (e : Event) (r : Run) : r.Spares (r.log e) := spares_onWorld ⟨rfl, rfl⟩

lemma spares_occur (o : Occurrence) (r : Run) : r.Spares (r.occur o) := by
  refine ⟨rfl, rfl, rfl, fun hphase => ?_, rfl, rfl⟩
  change (r.supervisor.react o).phase = _ at hphase
  generalize r.supervisor = s at hphase ⊢
  obtain ⟨phase, tracker, readyCount, stopAsked⟩ := s
  cases phase with
  | initializing => rfl
  | serving | unwinding | returned => cases o <;> cases hphase

lemma spares_awaitSignal (r : Run) : r.Spares r.awaitSignal := by
  rw [awaitSignal]
  cases r.plan.signalAfter with
  | none => exact .refl r
  | some ms => exact ⟨rfl, rfl, rfl, id, rfl, rfl⟩

lemma spares_noteRoles (r : Run) : r.Spares r.noteRoles := by
  rw [noteRoles]
  split
  · exact .refl r
  · exact spares_log _ r

lemma spares_keepTraces (i : Initialization) (scope : Scope) (r : Run) :
    r.Spares (r.keepTraces i scope) := by
  have hlogs (es : List Event) (r : Run) :
      r.Spares (es.foldl (fun r e => r.onWorld (World.log (some scope) e)) r) := by
    induction es generalizing r with
    | nil => exact .refl r
    | cons e rest ih => exact (spares_onWorld ⟨rfl, rfl⟩).trans (ih _)
  have hfiles : r.Spares { r with machine := { r.machine with files := i.files } } :=
    ⟨rfl, rfl, rfl, id, rfl, rfl⟩
  exact hfiles.trans (hlogs i.events _)

lemma spares_unwindService (r : Run) : r.Spares r.unwindService := by
  have hstopped : r.Spares ((r.occur .terminationRequested).onWorld (World.stop .service)) :=
    (spares_occur _ r).trans (spares_onWorld (World.spares_stop .service _))
  exact (hstopped.trans (spares_onSchedule _ _)).trans (spares_onSchedule _ _)

lemma spares_look (p : Preference) (r : Run) : r.Spares (r.look p) := by
  rw [look]
  cases r.watch.ready? p r.loop.end? r.isSignaled r.schedule.rung with
  | none => exact .refl r
  | some o =>
    cases o with
    | terminationRequested => exact spares_unwindService r
    | initialized | initializationFailed | loopEnded | deadlinePassed =>
      exact (spares_occur _ r).trans (spares_onSchedule _ _)

/-- What holds at any time of a run, which began with the store as found. -/
structure Sound (d : Draft) (cwd : String) (found : Store) (r : Run) : Prop where
  draft : r.plan.draft = d
  place : r.machine.cwd = cwd
  begun : r.supervisor.phase = .initializing → r.loop.isAbsent = true
  spawned : ∀ s, r.loop.service? = some s → d.build cwd = .ok s
  footprint : r.session.world.Footprint (d.ownRecord? cwd) r.loop.served found

lemma Sound.spares (h : r.Sound d cwd found) (hr : r.Spares r') : r'.Sound d cwd found where
  draft := hr.draft.trans h.draft
  place := hr.place.trans h.place
  begun hphase := hr.loop.symm ▸ h.begun (hr.phase hphase)
  spawned s hs := h.spawned s (hr.loop ▸ hs)
  footprint := hr.loop.symm ▸ h.footprint.spares hr.world

lemma Sound.endLoop (h : r.Sound d cwd found) {loop : RunLoop} (hloop : r.loop = loop)
    (hbegun : loop.isAbsent = false) {how : LoopEnd}
    (hserved : (RunLoop.ended how).served = loop.served) : (r.endLoop how).Sound d cwd found := by
  subst hloop
  have hended : ({ r with loop := .ended how } : Run).Sound d cwd found :=
    ⟨h.draft, h.place, fun hphase => absurd (h.begun hphase) (by simp [hbegun]), nofun,
      hserved ▸ h.footprint⟩
  exact hended.spares (spares_onSchedule _ _)

lemma Sound.unwind (h : r.Sound d cwd found) : r.unwind.Sound d cwd found := by
  cases hloop : r.loop with
  | serving =>
    simp only [Run.unwind, hloop]
    split
    · have hlost : r.Spares
          (if r.heartbeats.any (·.phase.isCrashed) then r.log Service.heartbeatLostEvent else r) := by
        split
        · exact spares_log _ r
        · exact .refl r
      have hlogged := hlost.trans (spares_log Service.stoppedEvent _)
      exact (h.spares hlogged).endLoop (hlogged.loop.trans hloop) rfl rfl
    · exact h
  | absent | spawned | registering | ended =>
    simpa only [Run.unwind, hloop] using h

lemma Sound.begins (h : r.Sound d cwd found) (hloop : r.loop = .spawned s) :
    d.build cwd = .ok s ∧ r.supervisor.phase ≠ .initializing ∧
      r.session.world.Untouched found := by
  refine ⟨h.spawned s (by rw [hloop]; rfl), fun hphase => ?_, h.footprint.idle (.inr ?_)⟩
  · have habsent := h.begun hphase
    rw [hloop] at habsent
    cases habsent
  · rw [hloop]
    rfl

lemma ownRecord?_of_build (h : d.build cwd = .ok s) : d.ownRecord? cwd = s.deviceRecord? := by
  rw [Draft.ownRecord?, h]

/-- A run loop that begins to serve, with the store and the heartbeats as they should be then. -/
lemma sound_serve (hdraft : r.plan.draft = d) (hplace : r.machine.cwd = cwd)
    (hphase : r.supervisor.phase ≠ .initializing)
    (hworld : r.session.world.Footprint (d.ownRecord? cwd) true found) :
    r.serve.Sound d cwd found := by
  have hserving : ({ r with loop := .serving } : Run).Sound d cwd found :=
    ⟨hdraft, hplace, fun hinitial => absurd hinitial hphase, nofun, hworld⟩
  exact hserving.unwind

/-- A run loop that goes no further than to the registration. -/
lemma Sound.cutShort (h : r.Sound d cwd found) (hloop : r.loop = .spawned s) {w : World}
    (hw : w.Untouched found) (loop : RunLoop) (hspawned : loop.service? = none)
    (hserved : loop.served = false) :
    ({ r.onWorld fun _ => w with loop } : Run).Sound d cwd found := by
  obtain ⟨_, hphase, _⟩ := h.begins hloop
  refine ⟨h.draft, h.place, fun hinitial => absurd hinitial hphase, fun t ht => ?_,
    fun own _ hon => ?_, fun _ => hw⟩
  · cases hspawned.symm.trans ht
  · cases hserved.symm.trans hon

lemma tended_startHeartbeat (h : Heartbeat) (r : Run) :
    (r.startHeartbeat h).session.world.tended = r.session.world.tended ++ [h.record] :=
  List.map_append

lemma Sound.registerDevice (h : r.Sound d cwd found) (hfound : found.Filed)
    (hloop : r.loop = .spawned s) {own : Record} (hown : s.deviceRecord? = some own) :
    (r.registerDevice s own).Sound d cwd found := by
  obtain ⟨hbuild, hphase, hworld⟩ := h.begins hloop
  have hrecord := (ownRecord?_of_build hbuild).trans hown
  have hmet := World.meets_run r.scope (assures_register (r := own) (hworld.store.symm ▸ hfound))
  have htended := World.tended_run r.scope (register own) r.session.world
  rw [hworld.store] at hmet
  rw [hworld.tended] at htended
  rw [Run.registerDevice]
  generalize r.session.world.run r.scope (register own) = ran at hmet htended
  obtain ⟨progress, w⟩ := ran
  cases progress with
  | finished result =>
    cases result with
    | ok v =>
      obtain ⟨hstore, hsame⟩ := hmet
      refine sound_serve h.draft h.place hphase ⟨fun own' hown' _ => ?_, fun hidle => ?_⟩
      · obtain rfl : own = own' := Option.some.inj (hrecord.symm.trans hown')
        refine ⟨hstore, fun kept hkept => ?_⟩
        have hnone : w.tended = [] := htended
        rw [tended_startHeartbeat] at hkept
        change kept ∈ w.tended ++ [v] at hkept
        rw [hnone, List.nil_append, List.mem_singleton] at hkept
        exact hkept ▸ hsame
      · simp [hrecord] at hidle
    | error e =>
      have hcut := h.cutShort hloop ⟨hmet, htended⟩ (.ended (.failed e)) rfl rfl
      exact hcut.spares (spares_onSchedule _ _)
  | stalled rest => exact h.cutShort hloop ⟨hmet, htended⟩ (.registering s rest) rfl rfl
  | crashed =>
    have hcut := h.cutShort hloop ⟨hmet, htended⟩ (.ended .crashed) rfl rfl
    exact hcut.spares (spares_onSchedule _ _)

lemma Sound.startLoop (h : r.Sound d cwd found) (hfound : found.Filed)
    (hloop : r.loop = .spawned s) : (r.startLoop s).Sound d cwd found := by
  rw [Run.startLoop]
  cases r.machine.files.makeDirectories s.dataDir with
  | error e => exact h.endLoop hloop rfl rfl
  | ok files =>
    dsimp only
    have hmade : r.Spares { r with machine := { r.machine with files } } :=
      ⟨rfl, rfl, rfl, id, rfl, rfl⟩
    split
    · exact (h.spares hmade).endLoop hloop rfl rfl
    · have hlogged := hmade.trans (spares_log s.listeningEvent _)
      have hready := h.spares hlogged
      split
      · next own hown => exact hready.registerDevice hfound hloop hown
      · next hnone =>
        obtain ⟨hbuild, hphase, hworld⟩ := hready.begins hloop
        have hrecord := (ownRecord?_of_build hbuild).trans hnone
        refine sound_serve hready.draft hready.place hphase ⟨fun own hown _ => ?_, fun _ => hworld⟩
        rw [hrecord] at hown
        cases hown

lemma Sound.advanceLoop (h : r.Sound d cwd found) (hfound : found.Filed) :
    r.advanceLoop.Sound d cwd found := by
  rw [Run.advanceLoop]
  split
  · exact h
  · cases hloop : r.loop with
    | spawned s => exact h.startLoop hfound hloop
    | absent | registering | serving | ended => exact h.unwind

lemma build_of_startUp {m : Machine} (h : (startUp m d).outcome = .ok s) :
    d.build m.cwd = .ok s := by
  rw [startUp] at h
  cases hbuild : d.build m.cwd with
  | error violations => simp [hbuild] at h
  | ok built =>
    simp only [hbuild] at h
    cases hlog : built.openLog m.files with
    | error why => simp [hlog] at h
    | ok files =>
      simp only [hlog, Service.startWithLog] at h
      cases hexporter : built.startExporter m.exporterRefusal with
      | error why => simp [hexporter] at h
      | ok exporter => simpa [hexporter] using h

lemma phase_react_initialized (s : Supervisor) : (s.react .initialized).phase ≠ .initializing := by
  obtain ⟨phase, tracker, readyCount, stopAsked⟩ := s
  cases phase <;> nofun

lemma Sound.spawnLoop (h : r.Sound d cwd found) (hloop : r.loop.isAbsent = true)
    (hbuild : d.build cwd = .ok s) (scope : Scope) : (r.spawnLoop s scope).Sound d cwd found := by
  let watch := { r.watch with grace := r.plan.graceFor s }
  let spawned : Run := { r with scope := some scope, watch, loop := .spawned s }
  have hfootprint := h.footprint
  rw [RunLoop.served_of_isAbsent hloop] at hfootprint
  have hspawned : (spawned.occur .initialized).Sound d cwd found := by
    refine ⟨h.draft, h.place, fun hphase => ?_, fun t ht => ?_, hfootprint.spares ⟨rfl, rfl⟩⟩
    · exact absurd hphase (phase_react_initialized r.supervisor)
    · exact (Option.some.inj ht) ▸ hbuild
  exact hspawned.spares ((spares_onSchedule _ _).trans (spares_awaitSignal _))

lemma Sound.launch (h : r.Sound d cwd found) (hphase : r.supervisor.phase = .initializing) :
    r.launch.Sound d cwd found := by
  have hroles := spares_noteRoles r
  have hkept (i : Initialization) (scope : Scope) : r.Spares (r.noteRoles.keepTraces i scope) :=
    hroles.trans (spares_keepTraces i scope _)
  rw [Run.launch]
  cases houtcome : (startUp r.noteRoles.machine r.noteRoles.plan.draft).outcome with
  | error why =>
    dsimp only
    exact (h.spares (hkept _ _)).spares (spares_occur _ _)
  | ok s =>
    dsimp only
    have hbuild := build_of_startUp houtcome
    rw [hroles.draft, hroles.place, h.draft, h.place] at hbuild
    exact (h.spares (hkept _ _)).spawnLoop ((hkept _ _).loop.symm ▸ h.begun hphase) hbuild _

lemma Sound.look (h : r.Sound d cwd found) (p : Preference) : (r.look p).Sound d cwd found :=
  h.spares (spares_look p r)

lemma Sound.supervise (h : r.Sound d cwd found) : r.supervise.Sound d cwd found := by
  rw [Run.supervise]
  cases hphase : r.supervisor.phase with
  | initializing => exact ((h.launch hphase).look _).look _
  | serving | unwinding | returned => exact (h.look _).look _

end Run

end Simulation

end DeviceFleet
