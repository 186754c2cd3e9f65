import DeviceFleet.Proofs.Agent.Tagging
import DeviceFleet.Proofs.Agent.Timers

/-! What may crash in a run whose settings are accepted: a heartbeat, for its interval, but not the run
loop, and not the supervisor, which may set its deadline for any time at all. -/

namespace DeviceFleet

/-- Where a supervisor is that gives its loop this grace, while the clock has shown these instants
and no loop has crashed. -/
inductive Watch.Timed (grace : Nat) (shown : List Nat) (w : Watch) : Supervisor.Phase → Prop
  | initializing : w.deadline = none → Timed grace shown w .initializing
  | serving : w.grace = grace → w.deadline = none → Timed grace shown w .serving
  | unwinding {asked : Nat} : asked ∈ shown → w.deadline = some (asked + grace) →
      Timed grace shown w .unwinding
  | returned {r : RunResult} : r ≠ .error .runLoopCrashed →
      (∀ due, w.deadline = some due → ∃ asked ∈ shown, due = asked + grace) →
      (∀ report, r = .ok report → report.timedOut = true →
        ∃ asked ∈ shown, ∃ later ∈ shown, asked + grace ≤ later) →
      Timed grace shown w (.returned r)

namespace Watch

variable {w : Watch} {grace now rung : Nat} {shown : List Nat} {phase : Supervisor.Phase}

lemma told_ne_crashed {how : LoopEnd} (h : how ≠ .crashed) (signaled : Bool) :
    how.told signaled ≠ .error .runLoopCrashed := by
  cases how with
  | completed | failed => nofun
  | crashed => exact absurd rfl h

lemma timedOut_told {how : LoopEnd} {signaled : Bool} {report : Report}
    (h : how.told signaled = .ok report) : report.timedOut = false := by
  cases how with
  | completed =>
    obtain rfl := Except.ok.inj h
    rfl
  | failed | crashed => cases h

lemma Timed.deadline (h : w.Timed grace shown phase) :
    ∀ due, w.deadline = some due → ∃ asked ∈ shown, due = asked + grace := by
  intro due hdue
  cases h with
  | initializing hnone | serving _ hnone => cases hnone.symm.trans hdue
  | unwinding hasked hset => exact ⟨_, hasked, Option.some.inj (hdue.symm.trans hset)⟩
  | returned _ hset _ => exact hset due hdue

lemma Timed.unset (h : w.Timed grace shown phase) (hphase : phase = .initializing) :
    w.deadline = none := by
  subst hphase
  cases h with
  | initializing hnone => exact hnone

lemma Timed.result (h : w.Timed grace shown w.supervisor.phase) {result : RunResult}
    (hresult : w.supervisor.result? = some result) :
    result ≠ .error .runLoopCrashed ∧ ∀ report, result = .ok report → report.timedOut = true →
      ∃ asked ∈ shown, ∃ later ∈ shown, asked + grace ≤ later := by
  rw [Supervisor.result?_eq_some_iff.mp hresult] at h
  cases h with
  | returned hcrashed _ hlate => exact ⟨hcrashed, hlate⟩

/-- The supervisor returns since its loop has. -/
lemma Timed.returns (h : w.Timed grace shown phase) {how : LoopEnd} (hhow : how ≠ .crashed)
    (signaled : Bool) {w' : Watch} (hw : w'.deadline = w.deadline) :
    w'.Timed grace shown (.returned (how.told signaled)) := by
  refine .returned (told_ne_crashed hhow signaled) (hw ▸ h.deadline) fun report htold hlate => ?_
  exact absurd ((timedOut_told htold).symm.trans hlate) Bool.false_ne_true

lemma ready?_cases_of_serving (hphase : w.supervisor.phase = .serving) {p : Preference}
    {ended : Option LoopEnd} {signaled : Bool} {o : Occurrence}
    (ho : w.ready? p ended signaled rung = some o) :
    o = .terminationRequested ∨ ∃ how, ended = some how ∧ o = .loopEnded how := by
  cases ended with
  | none =>
    obtain ⟨-, rfl⟩ : signaled = true ∧ Occurrence.terminationRequested = o := by
      simpa [ready?, hphase] using ho
    exact .inl rfl
  | some how =>
    simp only [ready?, hphase] at ho
    split at ho
    · exact .inl (Option.some.inj ho).symm
    · exact .inr ⟨how, rfl, (Option.some.inj ho).symm⟩

lemma Timed.takeUp (h : w.Timed grace shown w.supervisor.phase) (hnow : now ∈ shown)
    (hrung : rung ≤ now) {ended : Option LoopEnd} (hended : ended ≠ some .crashed)
    {signaled : Bool} {p : Preference} {o : Occurrence}
    (ho : w.ready? p ended signaled rung = some o) :
    (w.takeUp now o).Timed grace shown (w.takeUp now o).supervisor.phase := by
  change (w.takeUp now o).Timed grace shown (w.supervisor.react o).phase
  rw [Supervisor.phase_react]
  cases hphase : w.supervisor.phase with
  | initializing | returned r => simp [Watch.ready?, hphase] at ho
  | serving =>
    rw [hphase] at h
    rcases Watch.ready?_cases_of_serving hphase ho with rfl | ⟨how, hloop, rfl⟩
    · cases h with
      | serving hgrace hnone => exact .unwinding hnow (by simp [Watch.takeUp, hgrace])
    · exact h.returns (fun hhow => hended (hhow ▸ hloop)) false rfl
  | unwinding =>
    rw [hphase] at h
    cases hloop : ended with
    | none =>
      obtain ⟨hpassed, rfl⟩ :
          w.deadline.any (· ≤ rung) = true ∧ Occurrence.deadlinePassed = o := by
        simpa [Watch.ready?, hphase, hloop] using ho
      obtain ⟨due, hdue, hpast⟩ := (Option.any_eq_true _ _).mp hpassed
      obtain ⟨asked, hasked, rfl⟩ := h.deadline due hdue
      exact .returned (by simp) h.deadline fun _ _ _ =>
        ⟨asked, hasked, now, hnow, (of_decide_eq_true hpast).trans hrung⟩
    | some how =>
      obtain rfl : Occurrence.loopEnded how = o := by
        simpa [Watch.ready?, hphase, hloop] using ho
      exact h.returns (fun hhow => hended (hhow ▸ hloop)) true rfl

end Watch

namespace RunLoop

/-- What the loop of a service is up to, if it does not crash. -/
def Serves (s : Service) : RunLoop → Prop
  | .absent | .serving => True
  | .spawned s' => s' = s
  | .registering s' _ => s' = s
  | .ended how => how ≠ .crashed

lemma Serves.end?_ne {s : Service} {loop : RunLoop} (h : loop.Serves s) :
    loop.end? ≠ some .crashed := by
  cases loop with
  | absent | spawned | registering | serving => nofun
  | ended how => exact fun hend => h (Option.some.inj hend)

end RunLoop

namespace Simulation

variable {uptimeSecs : Nat} {shown : List Nat}

namespace Run

variable {p : Plan} {cwd : String} {s : Service} {r : Run}

/-- What holds of the timers at any time of a run that serves with accepted settings. -/
structure Timed (p : Plan) (cwd : String) (s : Service) (uptimeSecs : Nat) (shown : List Nat)
    (r : Run) : Prop where
  plan : r.plan = p
  place : r.machine.cwd = cwd
  loop : r.loop.Serves s
  watch : r.watch.Timed (p.graceFor s) shown r.watch.supervisor.phase
  world : r.session.world.Timed uptimeSecs s.settings.heartbeatIntervalSecs.toNat shown

lemma Timed.onWorld (h : r.Timed p cwd s uptimeSecs shown) {f : World → World}
    (hf : (f r.session.world).Timed uptimeSecs s.settings.heartbeatIntervalSecs.toNat shown) :
    (r.onWorld f).Timed p cwd s uptimeSecs shown := ⟨h.plan, h.place, h.loop, h.watch, hf⟩

lemma Timed.onSchedule (h : r.Timed p cwd s uptimeSecs shown) {f : Schedule → Schedule}
    (hf : r.schedule.SameTime (f r.schedule)) : (r.onSchedule f).Timed p cwd s uptimeSecs shown :=
  h.onWorld (h.world.goOn rfl hf h.world.script h.world.beaters)

lemma Timed.wake (h : r.Timed p cwd s uptimeSecs shown) (t : Task) :
    (r.onSchedule (Schedule.wake t)).Timed p cwd s uptimeSecs shown :=
  h.onSchedule (Schedule.sameTime_wake t _)

lemma Timed.setAlarm (h : r.Timed p cwd s uptimeSecs shown) (due : Nat) (t : Task) :
    (r.onSchedule (Schedule.setAlarm due t)).Timed p cwd s uptimeSecs shown :=
  h.onSchedule (Schedule.sameTime_setAlarm due t _)

lemma Timed.telemetry (h : r.Timed p cwd s uptimeSecs shown) (f : World → Telemetry) :
    (r.onWorld fun w => { w with telemetry := f w }).Timed p cwd s uptimeSecs shown :=
  h.onWorld (h.world.goOn rfl ⟨rfl, rfl⟩ h.world.script h.world.beaters)

lemma Timed.log (h : r.Timed p cwd s uptimeSecs shown) (e : Event) :
    (r.log e).Timed p cwd s uptimeSecs shown := h.telemetry _

lemma Timed.withLoop (h : r.Timed p cwd s uptimeSecs shown) (loop : RunLoop)
    (hloop : loop.Serves s) : ({ r with loop } : Run).Timed p cwd s uptimeSecs shown :=
  ⟨h.plan, h.place, hloop, h.watch, h.world⟩

lemma Timed.endLoop (h : r.Timed p cwd s uptimeSecs shown) {how : LoopEnd} (hhow : how ≠ .crashed) :
    (r.endLoop how).Timed p cwd s uptimeSecs shown :=
  (h.withLoop (.ended how) hhow).wake .supervisor

lemma Timed.unwind (h : r.Timed p cwd s uptimeSecs shown) :
    r.unwind.Timed p cwd s uptimeSecs shown := by
  rw [Run.unwind]
  split
  · split
    · dsimp only
      split
      · exact ((h.log _).log _).endLoop (by simp)
      · exact (h.log _).endLoop (by simp)
    · exact h
  · exact h

lemma Timed.serve (h : r.Timed p cwd s uptimeSecs shown) :
    r.serve.Timed p cwd s uptimeSecs shown := (h.withLoop .serving trivial).unwind

lemma Timed.continueRegistration (h : r.Timed p cwd s uptimeSecs shown)
    (c : Client (Except ServiceError Record)) :
    (r.continueRegistration s c).Timed p cwd s uptimeSecs shown := by
  have hran := h.world.run r.scope c
  obtain ⟨-, -, hcrash⟩ := World.gentle_run h.world.script r.scope c
  rw [Run.continueRegistration]
  generalize r.session.world.run r.scope c = ran at hran hcrash
  obtain ⟨progress, w⟩ := ran
  have hworld : (r.onWorld fun _ => w).Timed p cwd s uptimeSecs shown := h.onWorld hran
  cases progress with
  | finished result =>
    cases result with
    | ok registered =>
      have hlogged := hworld.log (Service.registeredEvent registered)
      exact (hlogged.onWorld (hlogged.world.spawn rfl .service _ _)).serve
    | error e => exact hworld.endLoop (by simp)
  | stalled rest => exact hworld.withLoop _ rfl
  | crashed => exact absurd rfl (hcrash w)

lemma Timed.startLoop (h : r.Timed p cwd s uptimeSecs shown) :
    (r.startLoop s).Timed p cwd s uptimeSecs shown := by
  rw [Run.startLoop]
  split
  · exact h.endLoop (by simp)
  · next files _ =>
    have hmade : ({ r with machine := { r.machine with files } } : Run).Timed p cwd s uptimeSecs
        shown := ⟨h.plan, h.place, h.loop, h.watch, h.world⟩
    dsimp only
    split
    · exact hmade.endLoop (by simp)
    · split
      · rw [registerDevice_eq]
        exact (hmade.log _).continueRegistration _
      · exact (hmade.log _).serve

lemma Timed.advanceLoop (h : r.Timed p cwd s uptimeSecs shown) :
    r.advanceLoop.Timed p cwd s uptimeSecs shown := by
  rw [Run.advanceLoop]
  split
  · exact h
  · split
    · next s' hloop =>
      obtain rfl : s' = s := by
        have hserves := h.loop
        rwa [hloop] at hserves
      exact h.startLoop
    · exact h.unwind

lemma Timed.occur (h : r.Timed p cwd s uptimeSecs shown) {o : Occurrence}
    (hwatch : (r.watch.takeUp r.schedule.now o).Timed (p.graceFor s) shown
      (r.watch.takeUp r.schedule.now o).supervisor.phase) :
    (r.occur o).Timed p cwd s uptimeSecs shown :=
  ⟨h.plan, h.place, h.loop, hwatch, (h.telemetry _).world⟩

lemma Timed.takeUp (h : r.Timed p cwd s uptimeSecs shown) {choice : Preference} {o : Occurrence}
    (ho : r.watch.ready? choice r.loop.end? r.isSignaled r.schedule.rung = some o) :
    (r.occur o).Timed p cwd s uptimeSecs shown :=
  h.occur (h.watch.takeUp h.world.now h.world.rung h.loop.end?_ne ho)

lemma Timed.look (h : r.Timed p cwd s uptimeSecs shown) (choice : Preference) :
    (r.look choice).Timed p cwd s uptimeSecs shown := by
  rw [Run.look]
  split
  · next ho =>
    have hstopped := (h.takeUp ho).onWorld ((h.takeUp ho).world.stop .service)
    rw [Run.unwindService]
    split
    · exact (hstopped.wake .loop).setAlarm _ .supervisor
    · exact hstopped.wake .loop
  · next ho => exact (h.takeUp ho).onSchedule ⟨rfl, rfl⟩
  · exact h

lemma Timed.awaitSignal (h : r.Timed p cwd s uptimeSecs shown) :
    r.awaitSignal.Timed p cwd s uptimeSecs shown := by
  rw [Run.awaitSignal]
  split
  · exact h
  · next ms _ =>
    have hdue : ({ r with signalDue := some (r.schedule.now + ms) } : Run).Timed p cwd s uptimeSecs
        shown := ⟨h.plan, h.place, h.loop, h.watch, h.world⟩
    exact hdue.setAlarm _ .supervisor

lemma Timed.spawnLoop (h : r.Timed p cwd s uptimeSecs shown)
    (hphase : r.supervisor.phase = .initializing) (scope : Scope) :
    (r.spawnLoop s scope).Timed p cwd s uptimeSecs shown := by
  let spawned : Run :=
    { r with scope := some scope, watch := { r.watch with grace := r.plan.graceFor s },
             loop := .spawned s }
  have hbegun : (spawned.occur .initialized).Timed p cwd s uptimeSecs shown := by
    refine ⟨h.plan, h.place, rfl, ?_, (h.telemetry _).world⟩
    change Watch.Timed _ _ _ (r.supervisor.react .initialized).phase
    rw [Supervisor.phase_react, hphase]
    exact .serving (by rw [← h.plan]; rfl) (h.watch.unset hphase)
  exact (hbegun.wake .loop).awaitSignal

lemma Timed.initializationFails (h : r.Timed p cwd s uptimeSecs shown)
    (hphase : r.supervisor.phase = .initializing) {why : Failure} (hwhy : why ≠ .runLoopCrashed) :
    (r.occur (.initializationFailed why)).Timed p cwd s uptimeSecs shown := by
  have hnone := h.watch.unset hphase
  refine h.occur ?_
  change Watch.Timed _ _ _ (r.supervisor.react (.initializationFailed why)).phase
  rw [Supervisor.phase_react, hphase]
  refine .returned (fun hcrashed => hwhy (Except.error.inj hcrashed)) (fun due hdue => ?_) nofun
  cases hnone.symm.trans hdue

lemma failure_of_startUp {m : Machine} {d : Draft} {why : Failure} (hbuild : d.build m.cwd = .ok s)
    (h : (startUp m d).outcome = .error why) : why ≠ .runLoopCrashed := by
  obtain ⟨-, -, hmet⟩ := Draft.accepted_of_build hbuild
  simp only [startUp, hbuild] at h
  cases hlog : s.openLog m.files with
  | error failure =>
    rw [hlog] at h
    obtain rfl : failure = why := Except.error.inj h
    rw [Service.openLog] at hlog
    split at hlog
    · cases hlog
    · next path _ =>
      rintro rfl
      cases hopen : m.files.openAppend path <;> simp [Except.mapError, hopen] at hlog
  | ok files =>
    simp only [hlog, Service.startWithLog] at h
    cases hexporter : s.startExporter m.exporterRefusal with
    | error failure =>
      rw [hexporter] at h
      obtain rfl : failure = why := Except.error.inj h
      obtain ⟨_, _, _, -, -, -, rfl⟩ := Service.startExporter_error (hmet .metricsAddress) hexporter
      simp
    | ok exporter => simp [hexporter] at h

lemma Timed.launch (h : r.Timed p cwd s uptimeSecs shown) (hbuild : p.draft.build cwd = .ok s)
    (hphase : r.supervisor.phase = .initializing) : r.launch.Timed p cwd s uptimeSecs shown := by
  obtain ⟨t, -, hroles⟩ := noteRoles_eq r
  have hnoted : r.noteRoles.Timed p cwd s uptimeSecs shown := hroles ▸ h.telemetry fun _ => t
  have hkept (i : Initialization) (scope : Scope) :
      (r.noteRoles.keepTraces i scope).Timed p cwd s uptimeSecs shown ∧
        (r.noteRoles.keepTraces i scope).supervisor.phase = .initializing := by
    obtain ⟨t', -, htraces⟩ := keepTraces_eq i scope r.noteRoles
    have hfiles : ({ r.noteRoles with machine := { r.noteRoles.machine with files := i.files } } :
        Run).Timed p cwd s uptimeSecs shown :=
      ⟨hnoted.plan, hnoted.place, hnoted.loop, hnoted.watch, hnoted.world⟩
    have hwatch := ((aside_noteRoles r).trans (aside_keepTraces i scope _)).watch
    refine ⟨htraces ▸ hfiles.telemetry fun _ => t', ?_⟩
    rwa [supervisor, hwatch]
  rw [Run.launch]
  split
  · next why hwhy =>
    have hbuilt : r.noteRoles.plan.draft.build r.noteRoles.machine.cwd = .ok s := by
      rw [hnoted.plan, hnoted.place, hbuild]
    exact (hkept _ _).1.initializationFails (hkept _ _).2 (failure_of_startUp hbuilt hwhy)
  · next s' hs' =>
    have hbuilt := build_of_startUp hs'
    rw [hnoted.plan, hnoted.place] at hbuilt
    obtain rfl := Except.ok.inj (hbuild.symm.trans hbuilt)
    exact (hkept _ _).1.spawnLoop (hkept _ _).2 _

lemma Timed.supervise (h : r.Timed p cwd s uptimeSecs shown) (hbuild : p.draft.build cwd = .ok s) :
    r.supervise.Timed p cwd s uptimeSecs shown := by
  rw [Run.supervise]
  split
  · next hphase => exact ((h.launch hbuild hphase).look _).look _
  · exact (h.look _).look _

lemma Timed.move (h : r.Timed p cwd s uptimeSecs shown) (hbuild : p.draft.build cwd = .ok s)
    {m : Move} (hm : ∀ t, m = .reschedule t → t.now ∈ shown ∧ t.rung ≤ t.now) :
    (r.move m).Timed p cwd s uptimeSecs shown := by
  cases m with
  | turn t =>
    cases t with
    | supervisor => exact h.supervise hbuild
    | loop => exact h.advanceLoop
    | heartbeat i =>
      exact h.onWorld (h.world.withBeater i fun b hb => World.timedAt_advanceBeater hb)
  | signalFirst => exact h.look .signal
  | beatFirst i => exact h.onWorld (h.world.withBeater i fun b hb => World.timedAt_beatFirst hb)
  | reschedule t =>
    obtain ⟨hnow, hrung⟩ := hm t rfl
    have hworld := h.world
    exact h.onWorld ⟨hworld.interval, hworld.uptime, hnow, hrung, hworld.script, hworld.beaters⟩
  | setWallClock t => exact h.onWorld (h.world.goOn rfl ⟨rfl, rfl⟩ h.world.script h.world.beaters)
  | signal due => exact ⟨h.plan, h.place, h.loop, h.watch, h.world⟩
  | request health method uri => exact h.onWorld (h.world.run _ _)

namespace Happening

/-- Nothing brings a task down from without, and no alarm rings before its time. -/
def isMild : Happening → Bool
  | .move (.reschedule t) => t.rung ≤ t.now
  | .breakLoop .crashed => false
  | .breakBeat _ => false
  | _ => true

def reading? : Happening → Option Nat
  | .move (.reschedule t) => some t.now
  | _ => none

end Happening

/-- The instants that the clock shows. -/
def readings (hs : List Happening) : List Nat := 0 :: hs.filterMap Happening.reading?

lemma Timed.happen (h : r.Timed p cwd s uptimeSecs shown) (hbuild : p.draft.build cwd = .ok s)
    {e : Happening} (he : e.isMild = true) (hshown : ∀ now, e.reading? = some now → now ∈ shown) :
    (r.happen e).Timed p cwd s uptimeSecs shown := by
  cases e with
  | move m =>
    refine h.move hbuild fun t ht => ?_
    subst ht
    exact ⟨hshown t.now rfl, of_decide_eq_true he⟩
  | receive name =>
    rw [Run.happen, Invocation.receive]
    split
    · have hlogged := h.log (Invocation.signalEvent name)
      exact Timed.supervise
        ⟨hlogged.plan, hlogged.place, hlogged.loop, hlogged.watch, hlogged.world⟩ hbuild
    · exact h
  | request inside health method uri => exact h.onWorld (h.world.run inside _)
  | changeStore store =>
    exact h.onWorld (h.world.goOn rfl ⟨rfl, rfl⟩ h.world.script h.world.beaters)
  | answerLoop reply =>
    rw [Run.happen, Run.answerLoop]
    split
    · exact h
    · split
      · next s' q next hloop =>
        obtain rfl : s' = s := by
          have hserves := h.loop
          rwa [hloop] at hserves
        exact h.continueRegistration _
      · exact h
  | answerBeat i reply =>
    exact h.onWorld (h.world.withBeater i fun b hb => World.timedAt_answerBeat hb reply)
  | breakLoop how =>
    have hhow : how ≠ .crashed := by
      rintro rfl
      cases he
    rw [Run.happen, Run.breakLoop]
    split
    · exact h
    · split
      · exact h
      · exact h.endLoop hhow
  | breakBeat i => cases he

lemma Timed.happens (h : r.Timed p cwd s uptimeSecs shown) (hbuild : p.draft.build cwd = .ok s)
    {hs : List Happening} (hhs : ∀ e ∈ hs, e.isMild = true)
    (hshown : ∀ e ∈ hs, ∀ now, e.reading? = some now → now ∈ shown) :
    (r.happens hs).Timed p cwd s uptimeSecs shown := by
  induction hs generalizing r with
  | nil => exact h
  | cons e rest ih =>
    have hfirst := h.happen hbuild (hhs e List.mem_cons_self) (hshown e List.mem_cons_self)
    exact ih hfirst (fun f hf => hhs f (List.mem_cons_of_mem e hf)) fun f hf =>
      hshown f (List.mem_cons_of_mem e hf)

lemma timed_start {m : Machine} (hbuild : p.draft.build m.cwd = .ok s) {script : Script}
    (hscript : script.IsGentle) (hshown : 0 ∈ shown) (wallClock : Timestamp) (uptimeSecs : Nat)
    (found : Store) :
    let w := { World.new script wallClock uptimeSecs with store := found }
    (start p m (.new w)).Timed p m.cwd s uptimeSecs shown := by
  intro w
  have hinterval : s.settings.heartbeatIntervalSecs ≠ 0 :=
    (Draft.accepted_of_build hbuild).2.2 .heartbeatInterval
  have hpositive : 0 < s.settings.heartbeatIntervalSecs.toNat :=
    Nat.pos_of_ne_zero fun hzero => hinterval (UInt64.toNat_inj.mp hzero)
  have hworld : w.Timed uptimeSecs s.settings.heartbeatIntervalSecs.toNat shown :=
    ⟨hpositive, rfl, hshown, le_rfl, hscript, fun b hb => absurd hb List.not_mem_nil⟩
  have hfresh : (⟨p, .new w, m, none, .initial, none, .absent⟩ : Run).Timed p m.cwd s uptimeSecs
      shown := ⟨rfl, rfl, trivial, .initializing rfl, hworld⟩
  exact hfresh.wake .supervisor

/-- A process runs with accepted settings, while signals are sent, other clients write to its store,
calls are refused or answered at any time or never, and alarms are heard late; but nothing is brought
down from without. Its run loop does not crash. A heartbeat that has begun has crashed just when the
clock could not show the end of its first interval, which is not zero; it is never set for more than
one interval ahead of an instant of the clock. A deadline may be as far off as it likes, and a
shutdown is cut short only if the clock comes to it. -/
theorem crash_only_of_interval (script : Script) (wallClock : Timestamp) (uptimeSecs : Nat)
    (found : Store) (p : Plan) (m : Machine) (s : Service) (hs : List Happening)
    (hbuild : p.draft.build m.cwd = .ok s) (hscript : script.IsGentle)
    (hmild : ∀ e ∈ hs, e.isMild = true) :
    let w := { World.new script wallClock uptimeSecs with store := found }
    let r := (start p m (.new w)).happens hs
    let secs := s.settings.heartbeatIntervalSecs.toNat
    0 < secs ∧
    r.loop.end? ≠ some .crashed ∧
    r.supervisor.result? ≠ some (.error .runLoopCrashed) ∧
    (∀ b ∈ r.heartbeats, b.heartbeat.period = 1000 * secs ∧
      (b.phase = .spawned ∨ ∃ start ∈ readings hs,
        (b.phase.isCrashed = true ↔ Ticker.lastSecond < uptimeSecs + start / 1000 + secs)) ∧
      ∀ t, b.phase.ticker? = some t → ∃ now ∈ readings hs, t.due ≤ now + 1000 * secs) ∧
    (∀ due, r.watch.deadline = some due → ∃ asked ∈ readings hs, due = asked + p.graceFor s) ∧
    ∀ report, r.supervisor.result? = some (.ok report) → report.timedOut = true →
      ∃ asked ∈ readings hs, ∃ later ∈ readings hs, asked + p.graceFor s ≤ later := by
  intro w r secs
  have hfirst : 0 ∈ readings hs := List.mem_cons_self
  have hstart := timed_start hbuild hscript hfirst wallClock uptimeSecs found
  have hshown : ∀ e ∈ hs, ∀ now, e.reading? = some now → now ∈ readings hs := fun e he now hnow =>
    List.mem_cons_of_mem _ (List.mem_filterMap.mpr ⟨e, he, hnow⟩)
  have htimed : r.Timed p m.cwd s uptimeSecs (readings hs) := hstart.happens hbuild hmild hshown
  refine ⟨htimed.world.interval, htimed.loop.end?_ne, fun hcrashed => ?_, fun b hb => ?_,
    htimed.watch.deadline, fun report hreport => ?_⟩
  · exact (htimed.watch.result hcrashed).1 rfl
  · obtain ⟨hperiod, hbegun, hticker⟩ := htimed.world.beaters b (List.mem_of_mem_filter hb)
    exact ⟨hperiod, hbegun, fun t ht => (hticker t ht).2⟩
  · exact (htimed.watch.result hreport).2 report rfl

/-- The longest interval that the clock can show from its second second on, and a longer grace. -/
theorem crash_only_of_interval_edge :
    let d := (Draft.new .device).writeAll [.name "dev-1", .port "0",
      .heartbeatIntervalSecs 9223372036854775805, .shutdownTimeoutSecs 18446744073709551615]
    let m : Machine := ⟨"/", ⟨[], []⟩, fun _ => none, fun _ => none⟩
    let hs : List Happening := [.move (.turn .supervisor), .move (.turn .loop),
      .move (.turn (.heartbeat 0)),
      .move (.reschedule { Schedule.initial with now := 1000, rung := 1000 }), .receive "SIGTERM"]
    let w := { World.new .empty .epoch 1 with store := .empty }
    let r := (start ⟨.device, d, none, none⟩ m (.new w)).happens hs
    Script.empty.IsGentle ∧ (∀ e ∈ hs, e.isMild = true) ∧ (∃ s, d.build m.cwd = .ok s) ∧
      r.heartbeats.length = 1 ∧ (∀ b ∈ r.heartbeats, b.phase.isCrashed = false) ∧
      ∃ due, r.watch.deadline = some due ∧ 18446744073709551615000 ≤ due := by
  intro d m hs w r
  have hscript : Script.empty.IsGentle := fun op => by cases op <;> exact List.not_mem_nil
  have hmild : ∀ e ∈ hs, e.isMild = true := by simp [hs, Happening.isMild, Schedule.initial]
  have hbuilds : (d.build m.cwd).toOption.isSome = true := by decide +kernel
  have hdue : r.watch.deadline.isSome = true := by decide +kernel
  cases hbuild : d.build m.cwd with
  | error violations =>
    rw [hbuild] at hbuilds
    cases hbuilds
  | ok s =>
    have hsettings : s.settings = d.settings := (Draft.accepted_of_build hbuild).2.1
    have hinterval : s.settings.heartbeatIntervalSecs.toNat = 9223372036854775805 := by
      rw [hsettings]
      rfl
    have htimeout : s.settings.shutdownTimeoutSecs.toNat = 18446744073709551615 := by
      rw [hsettings]
      rfl
    obtain ⟨-, -, -, hbeats, hdeadline, -⟩ := crash_only_of_interval .empty .epoch 1 .empty
      ⟨.device, d, none, none⟩ m s hs hbuild hscript hmild
    refine ⟨hscript, hmild, ⟨s, rfl⟩, by decide +kernel, fun b hb => ?_, ?_⟩
    · rcases (hbeats b hb).2.1 with hspawned | ⟨start, hstart, hcrashed⟩
      · rw [hspawned]
        rfl
      · have hfits : ¬ Ticker.lastSecond < 1 + start / 1000 + 9223372036854775805 := by
          have hshown : start = 0 ∨ start = 1000 := by
            simpa [readings, hs, Happening.reading?, eq_comm] using hstart
          rw [Ticker.lastSecond]
          omega
        rw [hinterval] at hcrashed
        exact Bool.eq_false_iff.mpr fun hcrash => hfits (hcrashed.mp hcrash)
    · obtain ⟨due, hat⟩ := Option.isSome_iff_exists.mp hdue
      obtain ⟨asked, -, rfl⟩ := hdeadline due hat
      have hgrace : (Plan.mk .device d none none).graceFor s = 18446744073709551615000 := by
        rw [Plan.graceFor, htimeout]
        rfl
      exact ⟨_, hat, hgrace ▸ Nat.le_add_left _ _⟩

/-- An interval that is accepted, and that no clock can show the end of. -/
theorem longest_interval_crashes :
    let d := (Draft.new .device).writeAll
      [.name "dev-1", .port "0", .heartbeatIntervalSecs 18446744073709551615]
    let m : Machine := ⟨"/", ⟨[], []⟩, fun _ => none, fun _ => none⟩
    let r := (start ⟨.device, d, none, none⟩ m (.new (.new .empty .epoch 0))).moves
      [.turn .supervisor, .turn .loop, .turn (.heartbeat 0)]
    (d.build m.cwd).toOption.isSome = true ∧
      (r.heartbeats.map fun b => b.phase.isCrashed) = [true] := by
  decide +kernel

end Run

end Simulation

end DeviceFleet
