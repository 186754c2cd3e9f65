import DeviceFleet.Proofs.Agent.Shown
import DeviceFleet.Proofs.Agent.Tagging

/-! A run loop that has started a heartbeat returns when this is over, however long a slow store keeps
its last beat. -/

namespace DeviceFleet

namespace RunLoop

/-- The loop has not come to start a heartbeat yet. -/
def isAhead : RunLoop → Bool
  | .absent | .spawned _ | .registering .. => true
  | .serving | .ended _ => false

/-- The loop has come to its own end, good or bad. -/
def hasReturned : RunLoop → Bool
  | .ended .completed => true
  | .ended (.failed _) => true
  | _ => false

end RunLoop

namespace Simulation

namespace World

variable {w w' w'' : World} {b b' : Beater}

/-- A heartbeat later on: one that is over stays so. -/
structure Outlived (b b' : Beater) : Prop where
  owner : b'.owner = b.owner
  stays : b.phase.isOver = true → b'.phase.isOver = true

lemma owner_wakeBeater (fuel : Nat) (b : Beater) (w : World) :
    (wakeBeater fuel b w).1.owner = b.owner := by
  refine wakeBeater_keeps (P := fun x => x.1.owner = b.owner) (fun b' w t h => ?_) (fun _ _ h => h)
    fuel rfl
  rw [Pulse.phase_runBeat]
  exact h

lemma wakeBeater_of_over (h : b.phase.isOver = true) (fuel : Nat) (w : World) :
    wakeBeater fuel b w = (b, w) := by
  cases fuel with
  | zero => rfl
  | succ fuel =>
    cases hphase : b.phase with
    | ended | crashed => simp only [wakeBeater, hphase, Heartbeat.wake]
    | spawned | waiting | beating => simp [hphase, Heartbeat.Phase.isOver] at h

lemma outlived_advanceBeater (b : Beater) (w : World) : Outlived b (w.advanceBeater b).1 := by
  refine ⟨?_, fun hover => ?_⟩
  · rw [advanceBeater]
    split <;> exact owner_wakeBeater _ _ _
  · rw [advanceBeater]
    split
    · next hphase => simp [hphase, Heartbeat.Phase.isOver] at hover
    · rw [wakeBeater_of_over hover]
      exact hover

lemma outlived_answerBeat (reply : (q : Request) → q.Result) (b : Beater) (w : World) :
    Outlived b (answerBeat reply b w).1 := by
  rw [answerBeat]
  split
  · next t q next hphase =>
    refine ⟨?_, fun hover => by simp [hphase, Heartbeat.Phase.isOver] at hover⟩
    dsimp only
    rw [owner_wakeBeater, Pulse.phase_runBeat]
  · exact ⟨rfl, id⟩

lemma outlived_beatFirst (b : Beater) (w : World) : Outlived b (w.beatFirst b).1 := by
  refine beatFirst_keeps (P := fun x => Outlived b x.1) (fun t hphase _ => ?_) ⟨rfl, id⟩
  rw [Pulse.phase_runBeat]
  exact ⟨rfl, fun hover => by simp [hphase, Heartbeat.Phase.isOver] at hover⟩

/-- The heartbeats are those that there were. -/
def Outlives (w w' : World) : Prop := ∀ b' ∈ w'.beaters, ∃ b ∈ w.beaters, Outlived b b'

lemma outlives_of_beaters (h : w'.beaters = w.beaters) : w.Outlives w' :=
  fun b hb => ⟨b, h ▸ hb, rfl, id⟩

lemma Outlives.trans (h : w.Outlives w') (h' : w'.Outlives w'') : w.Outlives w'' := by
  intro b'' hb''
  obtain ⟨b', hb', howner', hover'⟩ := h' b'' hb''
  obtain ⟨b, hb, howner, hover⟩ := h b' hb'
  exact ⟨b, hb, howner'.trans howner, hover' ∘ hover⟩

lemma Outlives.none (h : w.Outlives w') (hnone : w.beatersOf .service = []) :
    w'.beatersOf .service = [] := by
  refine List.filter_eq_nil_iff.mpr fun b' hb' => ?_
  obtain ⟨b, hb, howner, _⟩ := h b' hb'
  rw [howner]
  exact List.filter_eq_nil_iff.mp hnone b hb

lemma Outlives.allOver (h : w.Outlives w')
    (hover : ∀ b ∈ w.beatersOf .service, b.phase.isOver = true) :
    ∀ b ∈ w'.beatersOf .service, b.phase.isOver = true := by
  intro b' hb'
  obtain ⟨hmem, hservice⟩ := List.mem_filter.mp hb'
  obtain ⟨b, hb, howner, hkept⟩ := h b' hmem
  exact hkept (hover b (List.mem_filter.mpr ⟨hb, howner ▸ hservice⟩))

lemma beaters_wakeBeater (fuel : Nat) (b : Beater) (w : World) :
    (wakeBeater fuel b w).2.beaters = w.beaters := by
  refine wakeBeater_keeps (P := fun x => x.2.beaters = w.beaters) (fun b' w' t h => ?_)
    (fun _ _ h => h) fuel rfl
  exact (frame_runBeat b' t _ w').2.trans h

lemma beaters_advanceBeater (b : Beater) (w : World) :
    (w.advanceBeater b).2.beaters = w.beaters := by
  rw [advanceBeater]
  split <;> exact beaters_wakeBeater _ _ _

lemma beaters_answerBeat (reply : (q : Request) → q.Result) (b : Beater) (w : World) :
    (answerBeat reply b w).2.beaters = w.beaters := by
  rw [answerBeat]
  split
  · exact (beaters_wakeBeater _ _ _).trans (frame_runBeat _ _ _ _).2
  · rfl

lemma beaters_beatFirst (b : Beater) (w : World) : (w.beatFirst b).2.beaters = w.beaters :=
  beatFirst_keeps (P := fun x => x.2.beaters = w.beaters) (fun _ _ _ => (frame_runBeat ..).2) rfl

lemma outlives_withBeater (i : Nat) {f : Beater → World → Beater × World}
    (hf : ∀ b, Outlived b (f b w).1) (hbeaters : ∀ b, (f b w).2.beaters = w.beaters) :
    w.Outlives (w.withBeater i f) := by
  rw [withBeater]
  cases hb : w.beaters[i]? with
  | none => exact outlives_of_beaters rfl
  | some b =>
    intro b' hb'
    change b' ∈ (f b w).2.beaters.set i (f b w).1 at hb'
    rw [hbeaters] at hb'
    rcases List.mem_or_eq_of_mem_set hb' with hb' | rfl
    · exact ⟨b', hb', rfl, id⟩
    · exact ⟨b, List.mem_of_getElem? hb, hf b⟩

lemma outlives_stop (owner : Owner) (w : World) : w.Outlives (w.stop owner) := by
  intro b' hb'
  obtain ⟨b, hb, rfl⟩ := List.mem_map.mp hb'
  refine ⟨b, hb, ?_⟩
  split <;> exact ⟨rfl, id⟩

end World

namespace Run

variable {r r' r'' : Run} {s : Service}

/-- What holds of the heartbeats at any time of a run. -/
structure Awaits (r : Run) : Prop where
  begun : r.supervisor.phase = .initializing → r.loop.isAbsent = true
  alone : r.loop.isAhead = true → r.heartbeats = []
  allOver : r.loop.hasReturned = true → ∀ b ∈ r.heartbeats, b.phase.isOver = true

/-- A run that goes on while its loop stays where it is. -/
structure Outlives (r r' : Run) : Prop where
  loop : r'.loop = r.loop
  phase : r'.supervisor.phase = .initializing → r.supervisor.phase = .initializing
  world : r.session.world.Outlives r'.session.world

lemma Outlives.trans (h : r.Outlives r') (h' : r'.Outlives r'') : r.Outlives r'' :=
  ⟨h'.loop.trans h.loop, h.phase ∘ h'.phase, h.world.trans h'.world⟩

lemma outlives_onWorld {f : World → World} (h : r.session.world.Outlives (f r.session.world)) :
    r.Outlives (r.onWorld f) := ⟨rfl, id, h⟩

lemma outlives_of_beaters {f : World → World}
    (h : (f r.session.world).beaters = r.session.world.beaters) : r.Outlives (r.onWorld f) :=
  outlives_onWorld (World.outlives_of_beaters h)

lemma outlives_occur (o : Occurrence) (r : Run) : r.Outlives (r.occur o) :=
  ⟨rfl, (spares_occur o r).phase, World.outlives_of_beaters rfl⟩

lemma Awaits.outlives (h : r.Awaits) (hr : r.Outlives r') : r'.Awaits where
  begun hphase := hr.loop.symm ▸ h.begun (hr.phase hphase)
  alone hahead := hr.world.none (h.alone (hr.loop ▸ hahead))
  allOver hreturned := hr.world.allOver (h.allOver (hr.loop ▸ hreturned))

lemma Awaits.onSchedule (h : r.Awaits) (f : Schedule → Schedule) : (r.onSchedule f).Awaits :=
  h.outlives (outlives_of_beaters rfl)

lemma Awaits.log (h : r.Awaits) (e : Event) : (r.log e).Awaits :=
  h.outlives (outlives_of_beaters rfl)

lemma Awaits.withLoop (h : r.Awaits) (hbegun : r.loop.isAbsent = false) (loop : RunLoop)
    (hahead : loop.isAhead = true → r.heartbeats = [])
    (hreturned : loop.hasReturned = true → ∀ b ∈ r.heartbeats, b.phase.isOver = true) :
    ({ r with loop } : Run).Awaits :=
  ⟨fun hphase => absurd (hbegun.symm.trans (h.begun hphase)) nofun, hahead, hreturned⟩

lemma Awaits.endLoop (h : r.Awaits) (hbegun : r.loop.isAbsent = false) {how : LoopEnd}
    (hreturned : how ≠ .crashed → ∀ b ∈ r.heartbeats, b.phase.isOver = true) :
    (r.endLoop how).Awaits := by
  refine (h.withLoop hbegun (.ended how) nofun fun hended => hreturned ?_).onSchedule _
  rintro rfl
  cases hended

lemma Awaits.unwind (h : r.Awaits) : r.unwind.Awaits := by
  rw [Run.unwind]
  split
  · next hloop =>
    split
    · next hover =>
      have hall : ∀ b ∈ r.heartbeats, b.phase.isOver = true :=
        List.all_eq_true.mp (Bool.and_eq_true_iff.mp hover).2
      have hbegun : r.loop.isAbsent = false := by rw [hloop]; rfl
      dsimp only
      split
      · exact ((h.log _).log _).endLoop hbegun fun _ => hall
      · exact (h.log _).endLoop hbegun fun _ => hall
    · exact h
  · exact h

lemma awaits_serve (hphase : r.supervisor.phase ≠ .initializing) : r.serve.Awaits := by
  have hserving : ({ r with loop := .serving } : Run).Awaits :=
    ⟨fun hinitial => absurd hinitial hphase, nofun, nofun⟩
  exact hserving.unwind

lemma Awaits.phase_ne (h : r.Awaits) (hbegun : r.loop.isAbsent = false) :
    r.supervisor.phase ≠ .initializing :=
  fun hphase => absurd (hbegun.symm.trans (h.begun hphase)) nofun

lemma Awaits.continueRegistration (h : r.Awaits) (hahead : r.loop.isAhead = true)
    (hbegun : r.loop.isAbsent = false) (c : Client (Except ServiceError Record)) :
    (r.continueRegistration s c).Awaits := by
  have hbeaters := World.beaters_run r.scope c r.session.world
  rw [Run.continueRegistration]
  generalize r.session.world.run r.scope c = ran at hbeaters
  obtain ⟨progress, w⟩ := ran
  have hworld : (r.onWorld fun _ => w).Awaits := h.outlives (outlives_of_beaters hbeaters)
  have hnone : (r.onWorld fun _ => w).heartbeats = [] := hworld.alone hahead
  cases progress with
  | finished result =>
    cases result with
    | ok registered => exact awaits_serve (h.phase_ne hbegun)
    | error e => exact hworld.endLoop hbegun fun _ => by simp [hnone]
  | stalled rest =>
    exact hworld.withLoop hbegun _ (fun _ => hnone)
      (fun hreturned => absurd hreturned Bool.false_ne_true)
  | crashed => exact hworld.endLoop hbegun fun hcrashed => absurd rfl hcrashed

lemma Awaits.startLoop (h : r.Awaits) (hloop : r.loop = .spawned s) :
    (r.startLoop s).Awaits := by
  have hahead : r.loop.isAhead = true := by rw [hloop]; rfl
  have hbegun : r.loop.isAbsent = false := by rw [hloop]; rfl
  have hnone : r.heartbeats = [] := h.alone hahead
  rw [Run.startLoop]
  split
  · exact h.endLoop hbegun fun _ => by simp [hnone]
  · next files _ =>
    have hmade : ({ r with machine := { r.machine with files } } : Run).Awaits :=
      ⟨h.begun, h.alone, h.allOver⟩
    dsimp only
    split
    · exact hmade.endLoop hbegun fun _ b hb => absurd (hnone ▸ hb) List.not_mem_nil
    · split
      · rw [registerDevice_eq]
        exact (hmade.log _).continueRegistration hahead hbegun _
      · exact awaits_serve (h.phase_ne hbegun)

lemma Awaits.advanceLoop (h : r.Awaits) : r.advanceLoop.Awaits := by
  rw [Run.advanceLoop]
  split
  · exact h
  · split
    · next s hloop => exact h.startLoop hloop
    · exact h.unwind

lemma Awaits.unwindService (h : r.Awaits) : r.unwindService.Awaits := by
  have hstopped : r.Outlives ((r.occur .terminationRequested).onWorld (World.stop .service)) :=
    (outlives_occur _ r).trans (outlives_onWorld (World.outlives_stop .service _))
  rw [Run.unwindService]
  split
  · exact ((h.outlives hstopped).onSchedule _).onSchedule _
  · exact (h.outlives hstopped).onSchedule _

lemma Awaits.look (h : r.Awaits) (p : Preference) : (r.look p).Awaits := by
  rw [Run.look]
  split
  · exact h.unwindService
  · exact (h.outlives (outlives_occur _ r)).onSchedule _
  · exact h

lemma outlives_noteRoles (r : Run) : r.Outlives r.noteRoles := by
  obtain ⟨t, -, hroles⟩ := noteRoles_eq r
  rw [hroles]
  exact outlives_of_beaters rfl

lemma outlives_keepTraces (i : Initialization) (scope : Scope) (r : Run) :
    r.Outlives (r.keepTraces i scope) := by
  obtain ⟨t, -, htraces⟩ := keepTraces_eq i scope r
  rw [htraces]
  exact ⟨rfl, id, World.outlives_of_beaters rfl⟩

lemma Awaits.awaitSignal (h : r.Awaits) : r.awaitSignal.Awaits := by
  rw [Run.awaitSignal]
  split
  · exact h
  · next ms _ =>
    have hdue : ({ r with signalDue := some (r.schedule.now + ms) } : Run).Awaits :=
      ⟨h.begun, h.alone, h.allOver⟩
    exact hdue.onSchedule _

lemma awaits_spawnLoop (hnone : r.heartbeats = []) (s : Service) (scope : Scope) :
    (r.spawnLoop s scope).Awaits := by
  let spawned : Run :=
    { r with scope := some scope, watch := { r.watch with grace := r.plan.graceFor s },
             loop := .spawned s }
  have hbegun : (spawned.occur .initialized).Awaits :=
    ⟨fun hphase => absurd hphase (phase_react_initialized _), fun _ => hnone, nofun⟩
  exact (hbegun.onSchedule _).awaitSignal

lemma Awaits.launch (h : r.Awaits) (hphase : r.supervisor.phase = .initializing) :
    r.launch.Awaits := by
  have hkept (i : Initialization) (scope : Scope) : (r.noteRoles.keepTraces i scope).Awaits :=
    h.outlives ((outlives_noteRoles r).trans (outlives_keepTraces i scope _))
  have habsent : r.loop.isAbsent = true := h.begun hphase
  have hahead : r.loop.isAhead = true := by
    cases hloop : r.loop with
    | absent => rfl
    | spawned | registering | serving | ended => simp [hloop, RunLoop.isAbsent] at habsent
  rw [Run.launch]
  split
  · exact (hkept _ _).outlives (outlives_occur _ _)
  -- The loop is spawned here and nowhere else, and before it there is no heartbeat to wait for.
  · refine awaits_spawnLoop ((hkept _ _).alone ?_) _ _
    rw [(outlives_keepTraces _ _ _).loop, (outlives_noteRoles r).loop, hahead]

lemma Awaits.supervise (h : r.Awaits) : r.supervise.Awaits := by
  rw [Run.supervise]
  split
  · next hphase => exact ((h.launch hphase).look _).look _
  · exact (h.look _).look _

lemma Awaits.move (h : r.Awaits) (m : Move) : (r.move m).Awaits := by
  cases m with
  | turn t =>
    cases t with
    | supervisor => exact h.supervise
    | loop => exact h.advanceLoop
    | heartbeat i =>
      exact h.outlives (outlives_onWorld (World.outlives_withBeater i
        (fun b => World.outlived_advanceBeater b _) fun b => World.beaters_advanceBeater b _))
  | signalFirst => exact h.look .signal
  | beatFirst i =>
    exact h.outlives (outlives_onWorld (World.outlives_withBeater i
      (fun b => World.outlived_beatFirst b _) fun b => World.beaters_beatFirst b _))
  | reschedule s => exact h.onSchedule _
  | setWallClock t => exact h.outlives (outlives_of_beaters rfl)
  | signal due => exact ⟨h.begun, h.alone, h.allOver⟩
  | request health method uri => exact h.outlives (outlives_of_beaters (World.beaters_run _ _ _))

lemma Awaits.happen (h : r.Awaits) {e : Happening}
    (he : ∀ how, e = .breakLoop how → how = .crashed) : (r.happen e).Awaits := by
  cases e with
  | move m => exact h.move m
  | receive name =>
    rw [Run.happen, Invocation.receive]
    split
    · have hlogged := h.log (Invocation.signalEvent name)
      exact Awaits.supervise ⟨hlogged.begun, hlogged.alone, hlogged.allOver⟩
    · exact h
  | request inside health method uri =>
    exact h.outlives (outlives_of_beaters (World.beaters_run _ _ _))
  | changeStore store => exact h.outlives (outlives_of_beaters rfl)
  | answerLoop reply =>
    rw [Run.happen, Run.answerLoop]
    split
    · exact h
    · split
      · next hloop =>
        exact h.continueRegistration (by rw [hloop]; rfl) (by rw [hloop]; rfl) _
      · exact h
  | answerBeat i reply =>
    exact h.outlives (outlives_onWorld (World.outlives_withBeater i
      (fun b => World.outlived_answerBeat reply b _) fun b => World.beaters_answerBeat reply b _))
  | breakLoop how =>
    obtain rfl := he how rfl
    rw [Run.happen, Run.breakLoop]
    split
    · exact h
    · split
      · exact h
      · next hbegun =>
        refine h.endLoop ?_ fun hcrashed => absurd rfl hcrashed
        cases hloop : r.loop with
        | absent => exact absurd hloop hbegun
        | spawned | registering | serving | ended => rfl
  | breakBeat i =>
    exact h.outlives (outlives_onWorld (World.outlives_withBeater i
      (fun b => ⟨rfl, fun _ => rfl⟩) fun b => rfl))

lemma Awaits.happens (h : r.Awaits) {hs : List Happening}
    (hhs : ∀ how, .breakLoop how ∈ hs → how = .crashed) : (r.happens hs).Awaits := by
  induction hs generalizing r with
  | nil => exact h
  | cons e rest ih =>
    refine ih (h.happen fun how he => hhs how ?_) fun how hhow =>
      hhs how (List.mem_cons_of_mem e hhow)
    exact he ▸ List.mem_cons_self

lemma awaits_start (p : Plan) (m : Machine) {w : World} (hbeaters : w.beaters = []) :
    (start p m (.new w)).Awaits := by
  have hnone : w.beatersOf .service = [] := by rw [World.beatersOf, hbeaters]; rfl
  have hfresh : (⟨p, .new w, m, none, .initial, none, .absent⟩ : Run).Awaits :=
    ⟨fun _ => rfl, fun _ => hnone, fun hreturned => absurd hreturned Bool.false_ne_true⟩
  exact hfresh.onSchedule _

lemma Awaits.over_of_end? (h : r.Awaits) {how : LoopEnd} (hend : r.loop.end? = some how)
    (hhow : how ≠ .crashed) : ∀ b ∈ r.heartbeats, b.phase.isOver = true := by
  apply h.allOver
  cases hloop : r.loop with
  | ended how' =>
    rw [hloop] at hend
    obtain rfl := Option.some.inj hend
    cases how' with
    | completed | failed => rfl
    | crashed => exact absurd rfl hhow
  | absent | spawned | registering | serving =>
    rw [hloop] at hend
    cases hend

/-- However late its alarms are heard and however long its store takes for any call, a heartbeat has
one beat under way at most. Its beats begin no sooner than as many periods after its start, and so by
any time there are no more than periods have passed. Where time passes only while nothing is left to
do, and the heartbeat is told to stop between two ticks, there are exactly as many, and they all come
to their ends. Only a crash ends a run loop from without; one that returns, for good or ill, has no
heartbeat that is not over. -/
theorem heartbeat_in_time :
    (∀ (h : Heartbeat) (uptimeSecs start : Nat) (es : List Pulse.Happening), 0 < h.period →
      let p := (Pulse.begin h uptimeSecs start).run es
      p.began.length = p.ended.length + (if p.phase.isBeating then 1 else 0) ∧
      (∀ k t, p.began[k]? = some t → start + (k + 1) * h.period ≤ t ∧ t ≤ p.now) ∧
      ∀ t, p.began.countP (· ≤ start + t) ≤ t / h.period) ∧
    (∀ (h : Heartbeat) (uptimeSecs start t : Nat) (earlier later : List Pulse.Happening),
      let fresh := Pulse.begin h uptimeSecs start
      fresh.isPrompt (earlier ++ .stop :: later) = true → (∀ e ∈ earlier, e ≠ .crash ∧ e ≠ .stop) →
      (∀ e ∈ later, e ≠ .crash) → (fresh.run earlier).now = start + t → ¬ h.period ∣ t →
      uptimeSecs + (start + t) / 1000 ≤ Ticker.lastSecond →
      let p := fresh.run (earlier ++ .stop :: later)
      p.began.length = t / h.period ∧ p.ended.length = t / h.period) ∧
    ∀ (script : Script) (wallClock : Timestamp) (uptimeSecs : Nat) (found : Store) (p : Plan)
        (m : Machine) (hs : List Happening), (∀ how, .breakLoop how ∈ hs → how = .crashed) →
      let w := { World.new script wallClock uptimeSecs with store := found }
      let r := (start p m (.new w)).happens hs
      ∀ how, r.loop.end? = some how → how ≠ .crashed → ∀ b ∈ r.heartbeats, b.phase.isOver = true := by
  refine ⟨fun h uptimeSecs start es hperiod => ?_,
    fun h uptimeSecs start t earlier later => Pulse.beats_until_stop,
    fun script wallClock uptimeSecs found p m hs hhs => ?_⟩
  · have hsteady := (Pulse.steady_begin h uptimeSecs start).run es
    have hkept : ((Pulse.begin h uptimeSecs start).run es).heartbeat.period = h.period :=
      congrArg Heartbeat.period (Pulse.heartbeat_run _ es)
    refine ⟨hsteady.counted, fun k t ht => ⟨?_, hsteady.past t (List.mem_of_getElem? ht)⟩,
      fun t => ?_⟩
    · exact hkept ▸ hsteady.spaced k t ht
    · exact hkept ▸ hsteady.countP_began_le (hkept ▸ hperiod) t
  · intro w r how hend hhow
    exact ((awaits_start p m rfl).happens hhs).over_of_end? hend hhow

/-- A heartbeat finds its record missing at both of its beats, and is told to stop after them. -/
theorem heartbeat_in_time_acme :
    let h : Heartbeat := ⟨.new "acme" "gw", 2⟩
    let missing : Pulse.Happening := .answer fun q => .error (.notFound q.key)
    let beat : List Pulse.Happening := [.tick, .tick, .look 0 false, missing, missing]
    let ran := (Pulse.begin h 0 0).run (beat ++ beat ++ [.tick] ++ .stop :: [.look 0 true])
    (ran.began.length = 5 / 2 ∧ ran.ended.length = 5 / 2) ∧
      ran.began.countP (· ≤ 0 + 3) ≤ 3 / 2 ∧
      let d := (Draft.new .device).writeAll [.name "dev-1", .tenant "acme", .port "0"]
      let m : Machine := ⟨"/", ⟨[], []⟩, fun _ => none, fun _ => none⟩
      let w := { World.new .empty .epoch 0 with store := .empty }
      let r := (start ⟨.device, d, none, none⟩ m (.new w)).happens
        [.move (.turn .supervisor), .move (.turn .loop), .move (.turn (.heartbeat 0)),
          .receive "SIGTERM", .move (.turn (.heartbeat 0)), .move (.turn .loop)]
      r.loop.end? = some .completed ∧ r.heartbeats.length = 1 ∧
        ∀ b ∈ r.heartbeats, b.phase.isOver = true := by
  intro h missing beat ran
  obtain ⟨hsteady, hprompt, hawaited⟩ := heartbeat_in_time
  have hfree : ∀ e ∈ beat ++ beat ++ [.tick], e ≠ .crash ∧ e ≠ .stop := by simp [beat, missing]
  have hserved : (Pulse.begin h 0 0).isPrompt
      ((beat ++ beat ++ [.tick]) ++ .stop :: [.look 0 true]) = true := by decide
  have hnow : ((Pulse.begin h 0 0).run (beat ++ beat ++ [.tick])).now = 0 + 5 := rfl
  have hbeats := hprompt h 0 0 5 _ _ hserved hfree (by simp) hnow (by decide) (by decide)
  refine ⟨hbeats, ?_, ?_⟩
  · exact (hsteady h 0 0 _ (by decide)).2.2 3
  · intro d m w r
    have hend : r.loop.end? = some .completed := by decide +kernel
    refine ⟨hend, by decide +kernel, hawaited .empty .epoch 0 .empty _ m _ ?_ _ hend nofun⟩
    simp

end Run

end Simulation

end DeviceFleet
