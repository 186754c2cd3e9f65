import DeviceFleet.Proofs.Agent.Footprint
import DeviceFleet.Proofs.Settings.Acceptance

/-! All that can happen while a run goes on over a store that no other client writes to, and what the
run makes of that store. -/

namespace DeviceFleet.Simulation.Run

/-- A task takes its turn, a clock is set, a signal is sent, or a request is served. Where two things
are ready for a task it may also take up the other one: the supervisor a signal before the end of
its loop, and a heartbeat its next beat before it stops. -/
inductive Move
  | turn (t : Task)
  | signalFirst
  | beatFirst (i : Nat)
  | reschedule (s : Schedule)
  | setWallClock (t : Timestamp)
  | signal (due : Nat)
  | request (h : Http.Health) (method : String) (uri : Http.Uri)

def move (r : Run) : Move → Run
  | .turn t => Host.turn t r
  | .signalFirst => r.look .signal
  | .beatFirst i => r.onWorld (World.withBeater i fun b w => w.beatFirst b)
  | .reschedule s => r.onSchedule fun _ => s
  | .setWallClock t => r.onWorld fun w => { w with wallClock := t }
  | .signal due => { r with signalDue := some due }
  | .request h method uri => r.onWorld fun w => (w.run r.scope (Http.respond h method uri)).2

def moves (r : Run) (ms : List Move) : Run := ms.foldl move r

variable {r : Run} {d : Draft} {cwd : String} {found : Store} {s : Service}

lemma moves_append (r : Run) (earlier later : List Move) :
    r.moves (earlier ++ later) = (r.moves earlier).moves later := List.foldl_append

section Simulator

variable {r' r'' : Run}

/-- So the simulator's runs are covered. -/
def Reaches (r r' : Run) : Prop := ∃ ms, r.moves ms = r'

lemma Reaches.refl (r : Run) : r.Reaches r := ⟨[], rfl⟩

lemma Reaches.trans (h : r.Reaches r') (h' : r'.Reaches r'') : r.Reaches r'' := by
  obtain ⟨earlier, rfl⟩ := h
  obtain ⟨later, rfl⟩ := h'
  exact ⟨earlier ++ later, moves_append r earlier later⟩

lemma reaches_turn (t : Task) (r : Run) : r.Reaches (Host.turn t r) := ⟨[.turn t], rfl⟩

lemma reaches_onSchedule (f : Schedule → Schedule) (r : Run) :
    r.Reaches (Host.onSchedule f r) := ⟨[.reschedule (f r.schedule)], rfl⟩

lemma reaches_takeTurns (fuel : Nat) (r : Run) : r.Reaches (Host.takeTurns fuel r) := by
  induction fuel generalizing r with
  | zero => exact .refl r
  | succ fuel ih =>
    rw [Host.takeTurns]
    split
    · exact .refl r
    · exact ((reaches_onSchedule _ r).trans (reaches_turn _ _)).trans (ih _)

lemma reaches_drain (r : Run) : r.Reaches (Host.drain r) := reaches_takeTurns _ r

lemma reaches_ring (r : Run) : r.Reaches (Host.ring r) := reaches_onSchedule Schedule.ring r

lemma reaches_settle (r : Run) : r.Reaches (Host.settle r) :=
  ((reaches_drain r).trans (reaches_ring _)).trans (reaches_drain _)

lemma reaches_passAlarms (limit fuel : Nat) (r : Run) :
    r.Reaches (Host.passAlarms limit fuel r) := by
  induction fuel generalizing r with
  | zero => exact .refl r
  | succ fuel ih =>
    rw [Host.passAlarms]
    split
    · next due hdue =>
      split
      · have hmoved := reaches_onSchedule (Schedule.moveTo due) r
        exact ((hmoved.trans (reaches_ring _)).trans (reaches_drain _)).trans (ih _)
      · exact .refl r
    · exact .refl r

lemma reaches_passTo (limit : Nat) (r : Run) : r.Reaches (Host.passTo limit r) := by
  rw [Host.passTo]
  split
  · have hpassed := (reaches_drain r).trans (reaches_passAlarms limit (limit - Host.now r) _)
    exact (hpassed.trans (reaches_onSchedule (Schedule.moveTo limit) _)).trans (reaches_ring _)
  · exact .refl r

lemma reaches_awaitAlarm (r : Run) : r.Reaches r.awaitAlarm := by
  rw [awaitAlarm]
  split
  · exact (reaches_passTo _ r).trans (reaches_settle _)
  · exact .refl r

/-- The simulator takes a run to its end by such moves. -/
theorem reaches_finish (r : Run) : r.Reaches r.finish :=
  ((reaches_settle r).trans (reaches_awaitAlarm _)).trans (reaches_awaitAlarm _)

end Simulator

lemma Sound.withBeater (h : r.Sound d cwd found) (i : Nat) {f : Beater → World → Beater × World}
    (hf : ∀ own b, World.Attends own found (b, r.session.world) →
      World.Attends own found (f b r.session.world)) :
    (r.onWorld (World.withBeater i f)).Sound d cwd found :=
  ⟨h.draft, h.place, h.begun, h.spawned, h.footprint.withBeater i hf⟩

lemma Sound.move (h : r.Sound d cwd found) (hfound : found.Filed) (m : Move) :
    (r.move m).Sound d cwd found := by
  cases m with
  | turn t =>
    cases t with
    | supervisor => exact h.supervise
    | loop => exact h.advanceLoop hfound
    | heartbeat i => exact h.withBeater i fun _ _ => World.attends_advanceBeater
  | signalFirst => exact h.look .signal
  | beatFirst i => exact h.withBeater i fun _ _ => World.attends_beatFirst
  | reschedule s => exact h.spares (spares_onSchedule _ r)
  | setWallClock t => exact h.spares (spares_onWorld ⟨rfl, rfl⟩)
  | signal due => exact h.spares ⟨rfl, rfl, rfl, id, rfl, rfl⟩
  | request health method uri =>
    have hreads := Http.calls_respond health method uri
    apply h.spares
    apply spares_onWorld
    exact ⟨World.store_run_of_reads r.scope hreads _, World.tended_run r.scope _ _⟩

lemma Sound.moves (h : r.Sound d cwd found) (hfound : found.Filed) (ms : List Move) :
    (r.moves ms).Sound d cwd found := by
  induction ms generalizing r with
  | nil => exact h
  | cons m rest ih => exact ih (h.move hfound m)

lemma sound_start (p : Plan) (m : Machine) {w : World} (hstore : w.store = found)
    (hbeaters : w.beaters = []) : (start p m (.new w)).Sound p.draft m.cwd found := by
  refine ⟨rfl, rfl, fun _ => rfl, nofun, nofun, fun _ => ⟨hstore, ?_⟩⟩
  exact List.map_eq_nil_iff.mpr hbeaters

/-- What a served device makes of the store is begun anew at any time. -/
lemma Sound.rebase (h : r.Sound d cwd found) {own : Record} (hown : d.ownRecord? cwd = some own)
    (hserved : r.loop.served = true) : r.Sound d cwd r.session.world.store := by
  have htends := h.footprint.device own hown hserved
  refine ⟨h.draft, h.place, h.begun, h.spawned, fun own' hown' _ => ?_, fun hidle => ?_⟩
  · obtain rfl : own = own' := Option.some.inj (hown.symm.trans hown')
    exact ⟨htends.store.rebase, htends.tended⟩
  · simp [hown, hserved] at hidle

/-- A device record that was there with the content configured stays there. -/
lemma Sound.record_stays (h : r.Sound d cwd found) {own old : Record}
    (hown : d.ownRecord? cwd = some own) (hold : found.record? own.key = some old)
    (hsame : old.sameContent own) :
    ∃ v, r.session.world.store.record? own.key = some v ∧ v.sameContent own ∧ v.Succeeds old := by
  cases hserved : r.loop.served with
  | false =>
    have hstore := (h.footprint.idle (.inr hserved)).store
    exact ⟨old, hstore ▸ hold, hsame, .refl old⟩
  | true =>
    obtain ⟨v, hv, hcontent, hearlier⟩ := (h.footprint.device own hown hserved).store.held
    exact ⟨v, hv, hcontent, hearlier old hold⟩

/-- A process runs over a store that no other client writes to, while requests are served to it, the
clock is set, and calls are refused, stall or crash. A control plane leaves all records as they were
found, and so does a run that fails. A device leaves all records but its own: this one has, from the
registration on, the tags and the control plane that are configured; it keeps the stamp of its
creation, that of its last change never goes back, and it is counted if it was not there before. -/
theorem only_own_record (calls : List Call) (script : Script) (wallClock : Timestamp)
    (uptimeSecs : Nat) (p : Plan) (m : Machine) (earlier later : List Move) :
    let found := (runCalls Store.perform calls .empty).2
    let w := { World.new script wallClock uptimeSecs with store := found }
    let r := (start p m (.new w)).moves earlier
    let store := r.session.world.store
    match p.draft.build m.cwd with
    | .error _ => store = found
    | .ok s =>
      (s.role = .central → store = found) ∧
      (∀ e, r.loop = .ended (.failed e) → store = found) ∧
      (s.role = .device → ∃ name, s.settings.name = some name ∧
        let key : Key := ⟨s.settings.tenant, name⟩
        (∀ k, k ≠ key → store.record? k = found.record? k) ∧
        (r.loop.served = false → store = found) ∧
        (r.loop.served = true →
          store.devices = found.devices + (if (found.record? key).isSome then 0 else 1) ∧
          ∃ v, store.record? key = some v ∧ v.tags = s.settings.tags ∧
            v.controlPlane = s.settings.controlPlane ∧
            (∀ old, found.record? key = some old → v.Succeeds old) ∧
            ∃ v', (r.moves later).session.world.store.record? key = some v' ∧
              v'.tags = s.settings.tags ∧ v'.controlPlane = s.settings.controlPlane ∧
              v'.Succeeds v)) := by
  intro found w r store
  have hfound : found.Filed := Store.filed_empty.runCalls calls
  have hstart : (start p m (.new w)).Sound p.draft m.cwd found := sound_start p m rfl rfl
  have hsound : r.Sound p.draft m.cwd found := hstart.moves hfound earlier
  have hidle (h : p.draft.ownRecord? m.cwd = none ∨ r.loop.served = false) : store = found :=
    (hsound.footprint.idle h).store
  cases hbuild : p.draft.build m.cwd with
  | error violations => exact hidle (.inl (by simp [Draft.ownRecord?, hbuild]))
  | ok s =>
    have hown := ownRecord?_of_build hbuild
    refine ⟨fun hrole => ?_, fun e he => ?_, fun hrole => ?_⟩
    · exact hidle (.inl (hown.trans (by simp [Service.deviceRecord?, hrole])))
    · exact hidle (.inr (by rw [he]; rfl))
    · obtain ⟨name, own, hname, hrecord, hkey, htags, hplane⟩ := Draft.exists_deviceRecord? hbuild hrole
      rw [hrecord] at hown
      refine ⟨name, hname, ?_⟩
      rw [← hkey]
      refine ⟨fun k hk => ?_, fun hunserved => hidle (.inr hunserved), fun hserved => ?_⟩
      · cases hserved : r.loop.served with
        | false => rw [hidle (.inr hserved)]
        | true => exact (hsound.footprint.device own hown hserved).store.others k hk
      · have hregisters := (hsound.footprint.device own hown hserved).store
        obtain ⟨v, hv, hsame, hearlier⟩ := hregisters.held
        obtain ⟨_, hvtags, hvplane⟩ := Record.sameContent_iff.mp hsame
        have hlater := (hsound.rebase hown hserved).moves hregisters.filed later
        obtain ⟨v', hv', hsame', hnext⟩ := hlater.record_stays hown hv hsame
        obtain ⟨_, hvtags', hvplane'⟩ := Record.sameContent_iff.mp hsame'
        exact ⟨hregisters.devices, v, hv, hvtags.trans htags, hvplane.trans hplane, hearlier,
          v', hv', hvtags'.trans htags, hvplane'.trans hplane, hnext⟩

/-- A device that finds an empty store comes to serve at the first turn of its run loop. -/
example :
    let d := (Draft.new .device).writeAll [.name "dev-1", .tenant "acme", .port "0"]
    let m : Machine := ⟨"", ⟨[], []⟩, fun _ => none, fun _ => none⟩
    let r := start ⟨.device, d, none, none⟩ m (.new (.new .empty .epoch 0))
    (r.moves [.turn .supervisor, .turn .loop]).loop.served = true := by
  decide +kernel

end DeviceFleet.Simulation.Run
