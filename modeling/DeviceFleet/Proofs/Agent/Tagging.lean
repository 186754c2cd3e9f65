import DeviceFleet.Proofs.Agent.OwnRecord
import DeviceFleet.Proofs.Telemetry.Levels
import DeviceFleet.Proofs.Telemetry.Tagged
import DeviceFleet.Simulation.Process

/-!
Which records of a run are inside its process span. From the move to running on all are, whichever
task writes them; what the level of the log leaves of the span is another matter.
-/

namespace DeviceFleet.Simulation.Run

variable {scope : Scope} {prior : List LogRecord} {r : Run} {s : Service}

def records (r : Run) : List LogRecord := r.session.world.telemetry.records

section Happenings

/-- What a run loop makes of its registration, from a call that the store has kept on. -/
def continueRegistration (s : Service) (c : Client (Except ServiceError Record)) (r : Run) : Run :=
  match r.session.world.run r.scope c with
  | (.finished (.ok registered), w) =>
    let r := (r.onWorld fun _ => w).log (Service.registeredEvent registered)
    (r.startHeartbeat (s.heartbeat registered)).serve
  | (.finished (.error e), w) => (r.onWorld fun _ => w).endLoop (.failed e)
  | (.stalled rest, w) => { r.onWorld fun _ => w with loop := .registering s rest }
  | (.crashed, w) => (r.onWorld fun _ => w).endLoop .crashed

lemma registerDevice_eq (s : Service) (own : Record) (r : Run) :
    r.registerDevice s own = r.continueRegistration s (register own) := rfl

/-- The store answers the run loop at last; one that was cut off does nothing more. -/
def answerLoop (reply : (q : Request) → q.Result) (r : Run) : Run :=
  if r.isOver then r
  else
    match r.loop with
    | .registering s (.call q next) => r.continueRegistration s (next (reply q))
    | _ => r

/-- The run loop comes to an end, of whatever kind, before it was told to. -/
def breakLoop (how : LoopEnd) (r : Run) : Run :=
  if r.isOver then r
  else
    match r.loop with
    | .absent => r
    | _ => r.endLoop how

/-- All that may happen to a run: its moves, but also a signal that has a name, a request inside any
span, other clients that write to the store, a store that answers late and in any way, and tasks
that come to an end of their own. -/
inductive Happening
  | move (m : Move)
  | receive (name : String)
  | request (inside : Option Scope) (h : Http.Health) (method : String) (uri : Http.Uri)
  | changeStore (store : Store)
  | answerLoop (reply : (q : Request) → q.Result)
  | answerBeat (i : Nat) (reply : (q : Request) → q.Result)
  | breakLoop (how : LoopEnd)
  | breakBeat (i : Nat)

def happen (r : Run) : Happening → Run
  | .move m => r.move m
  | .receive name => Invocation.receive name r
  | .request inside h method uri =>
    r.onWorld fun w => (w.run inside (Http.respond h method uri)).2
  | .changeStore store => r.onWorld fun w => { w with store }
  | .answerLoop reply => r.answerLoop reply
  | .answerBeat i reply => r.onWorld (World.withBeater i (World.answerBeat reply))
  | .breakLoop how => r.breakLoop how
  | .breakBeat i => r.onWorld (World.withBeater i fun b w => ({ b with phase := .crashed }, w))

def happens (r : Run) (hs : List Happening) : Run := hs.foldl happen r

lemma happens_append (r : Run) (earlier later : List Happening) :
    r.happens (earlier ++ later) = (r.happens earlier).happens later := List.foldl_append

lemma happens_moves (r : Run) (ms : List Move) : r.happens (ms.map .move) = r.moves ms :=
  List.foldl_map

/-- So the runs of whole processes are covered. -/
theorem exists_happens_run (i : Invocation) (d : Draft) :
    ∃ hs, (start ⟨i.role, d, none, none⟩ i.machine (.new i.world)).happens hs = i.run d := by
  obtain ⟨settling, hsettled⟩ :=
    reaches_settle (start ⟨i.role, d, none, none⟩ i.machine (.new i.world))
  rw [Invocation.run, ← hsettled]
  cases i.signal with
  | none =>
    obtain ⟨finishing, hfinished⟩ := reaches_finish (moves _ settling)
    refine ⟨settling.map .move ++ finishing.map .move, ?_⟩
    rw [happens_append, happens_moves, happens_moves, hfinished]
  | some name =>
    obtain ⟨finishing, hfinished⟩ := reaches_finish (Invocation.receive name (moves _ settling))
    refine ⟨settling.map .move ++ .receive name :: finishing.map .move, ?_⟩
    rw [happens_append, happens_moves]
    exact (happens_moves _ finishing).trans hfinished

end Happenings

/-- A run that has begun, and all that it has logged since then is inside its span. -/
structure Tagged (scope : Scope) (prior : List LogRecord) (r : Run) : Prop where
  span : r.scope = some scope
  begun : r.supervisor.phase ≠ .initializing
  world : r.session.world.Tagged scope prior

lemma Tagged.onWorld (h : r.Tagged scope prior) {f : World → World}
    (hf : (f r.session.world).Tagged scope prior) : (r.onWorld f).Tagged scope prior :=
  ⟨h.span, h.begun, hf⟩

lemma Tagged.onSchedule (h : r.Tagged scope prior) (f : Schedule → Schedule) :
    (r.onSchedule f).Tagged scope prior := h.onWorld ⟨h.world.beaters, h.world.telemetry⟩

lemma Tagged.withLoop (h : r.Tagged scope prior) (loop : RunLoop) :
    ({ r with loop } : Run).Tagged scope prior := ⟨h.span, h.begun, h.world⟩

lemma Tagged.log (h : r.Tagged scope prior) (e : Event) : (r.log e).Tagged scope prior := by
  refine h.onWorld ?_
  rw [h.span]
  exact h.world.log e

lemma Tagged.endLoop (h : r.Tagged scope prior) (how : LoopEnd) :
    (r.endLoop how).Tagged scope prior := (h.withLoop (.ended how)).onSchedule _

lemma Tagged.occur (h : r.Tagged scope prior) (o : Occurrence) : (r.occur o).Tagged scope prior := by
  refine ⟨h.span, fun hphase => h.begun ((spares_occur o r).phase hphase), h.world.beaters, ?_⟩
  change (r.supervisor.report r.scope _ o r.session.world.telemetry).Tagged scope prior
  rw [h.span]
  exact h.world.telemetry.reaction h.begun _ o

lemma Tagged.unwind (h : r.Tagged scope prior) : r.unwind.Tagged scope prior := by
  rw [Run.unwind]
  split
  · split
    · dsimp only
      split
      · exact ((h.log _).log _).endLoop _
      · exact (h.log _).endLoop _
    · exact h
  · exact h

lemma Tagged.serve (h : r.Tagged scope prior) : r.serve.Tagged scope prior :=
  (h.withLoop .serving).unwind

lemma Tagged.startHeartbeat (h : r.Tagged scope prior) (beat : Heartbeat) :
    (r.startHeartbeat beat).Tagged scope prior := by
  refine h.onWorld ?_
  rw [h.span]
  exact h.world.spawn beat .service _

lemma Tagged.continueRegistration (h : r.Tagged scope prior)
    (c : Client (Except ServiceError Record)) :
    (r.continueRegistration s c).Tagged scope prior := by
  have hran := h.world.run c
  rw [← h.span] at hran
  rw [Run.continueRegistration]
  generalize r.session.world.run r.scope c = ran at hran
  obtain ⟨progress, w⟩ := ran
  have hworld : (r.onWorld fun _ => w).Tagged scope prior := h.onWorld hran
  cases progress with
  | finished result =>
    cases result with
    | ok registered => exact ((hworld.log _).startHeartbeat _).serve
    | error e => exact hworld.endLoop _
  | stalled rest => exact hworld.withLoop _
  | crashed => exact hworld.endLoop _

lemma Tagged.startLoop (h : r.Tagged scope prior) : (r.startLoop s).Tagged scope prior := by
  rw [Run.startLoop]
  split
  · exact h.endLoop _
  · next files _ =>
    have hmade : ({ r with machine := { r.machine with files } } : Run).Tagged scope prior :=
      ⟨h.span, h.begun, h.world⟩
    dsimp only
    split
    · exact hmade.endLoop _
    · split
      · rw [registerDevice_eq]
        exact (hmade.log _).continueRegistration _
      · exact (hmade.log _).serve

lemma Tagged.advanceLoop (h : r.Tagged scope prior) : r.advanceLoop.Tagged scope prior := by
  rw [Run.advanceLoop]
  split
  · exact h
  · split
    · exact h.startLoop
    · exact h.unwind

lemma Tagged.unwindService (h : r.Tagged scope prior) : r.unwindService.Tagged scope prior := by
  have hstopped := (h.occur .terminationRequested).onWorld
    ((h.occur .terminationRequested).world.stop .service)
  rw [Run.unwindService]
  split
  · exact (hstopped.onSchedule _).onSchedule _
  · exact hstopped.onSchedule _

lemma Tagged.look (h : r.Tagged scope prior) (p : Preference) :
    (r.look p).Tagged scope prior := by
  rw [Run.look]
  split
  · exact h.unwindService
  · exact (h.occur _).onSchedule _
  · exact h

lemma Tagged.supervise (h : r.Tagged scope prior) : r.supervise.Tagged scope prior := by
  rw [Run.supervise]
  split
  · next hphase => exact absurd hphase h.begun
  · exact (h.look _).look _

lemma Tagged.move (h : r.Tagged scope prior) (m : Move) : (r.move m).Tagged scope prior := by
  cases m with
  | turn t =>
    cases t with
    | supervisor => exact h.supervise
    | loop => exact h.advanceLoop
    | heartbeat i =>
      exact h.onWorld (h.world.withBeater i fun b hb => World.taggedAt_advanceBeater hb)
  | signalFirst => exact h.look .signal
  | beatFirst i => exact h.onWorld (h.world.withBeater i fun b hb => World.taggedAt_beatFirst hb)
  | reschedule s => exact h.onSchedule _
  | setWallClock t => exact h.onWorld ⟨h.world.beaters, h.world.telemetry⟩
  | signal due => exact ⟨h.span, h.begun, h.world⟩
  | request health method uri =>
    exact h.onWorld (h.world.read _ (Http.calls_respond health method uri))

lemma Tagged.happen (h : r.Tagged scope prior) (e : Happening) :
    (r.happen e).Tagged scope prior := by
  cases e with
  | move m => exact h.move m
  | receive name =>
    rw [Run.happen, Invocation.receive]
    split
    · have hlogged := h.log (Invocation.signalEvent name)
      exact Tagged.supervise ⟨hlogged.span, hlogged.begun, hlogged.world⟩
    · exact h
  | request inside health method uri =>
    exact h.onWorld (h.world.read inside (Http.calls_respond health method uri))
  | changeStore store => exact h.onWorld ⟨h.world.beaters, h.world.telemetry⟩
  | answerLoop reply =>
    rw [Run.happen, Run.answerLoop]
    split
    · exact h
    · split
      · exact h.continueRegistration _
      · exact h
  | answerBeat i reply =>
    exact h.onWorld (h.world.withBeater i fun b hb => World.taggedAt_answerBeat hb reply)
  | breakLoop how =>
    rw [Run.happen, Run.breakLoop]
    split
    · exact h
    · split
      · exact h
      · exact h.endLoop how
  | breakBeat i => exact h.onWorld (h.world.withBeater i fun b hb => ⟨hb.beater, hb.world⟩)

lemma Tagged.happens (h : r.Tagged scope prior) (hs : List Happening) :
    (r.happens hs).Tagged scope prior := by
  induction hs generalizing r with
  | nil => exact h
  | cons e rest ih => exact ih (h.happen e)

section Beginning

variable {p : Plan} {m : Machine}

def Happening.isSupervision : Happening → Bool
  | .move (.turn .supervisor) => true
  | _ => false

/-- A run whose supervisor has not had its first turn. -/
structure Unopened (p : Plan) (m : Machine) (r : Run) : Prop where
  plan : r.plan = p
  machine : r.machine = m
  span : r.scope = none
  watch : r.watch = .initial
  loop : r.loop = .absent
  beaters : r.session.world.beaters = []
  records : r.records = []

lemma unopened_start (p : Plan) (m : Machine) {w : World} (hbeaters : w.beaters = [])
    (hrecords : w.telemetry.records = []) : (start p m (.new w)).Unopened p m :=
  ⟨rfl, rfl, rfl, rfl, rfl, hbeaters, hrecords⟩

lemma Unopened.onWorld (h : r.Unopened p m) {f : World → World}
    (hbeaters : (f r.session.world).beaters = [])
    (hrecords : (f r.session.world).telemetry.records = []) : (r.onWorld f).Unopened p m :=
  ⟨h.plan, h.machine, h.span, h.watch, h.loop, hbeaters, hrecords⟩

lemma Unopened.withBeater (h : r.Unopened p m) (i : Nat)
    (f : Beater → World → Beater × World) : (r.onWorld (World.withBeater i f)).Unopened p m := by
  have hsame := World.withBeater_of_nil h.beaters i f
  exact h.onWorld (hsame.symm ▸ h.beaters) (hsame.symm ▸ h.records)

lemma Unopened.read (h : r.Unopened p m) (inside : Option Scope) (health : Http.Health)
    (method : String) (uri : Http.Uri) :
    (r.onWorld fun w => (w.run inside (Http.respond health method uri)).2).Unopened p m := by
  have hreads := Http.calls_respond health method uri
  refine h.onWorld ?_ ?_
  · rw [World.beaters_run, h.beaters]
  · exact (World.records_run_of_reads inside hreads _).trans h.records

lemma Unopened.happen (h : r.Unopened p m) {e : Happening} (he : e.isSupervision = false) :
    (r.happen e).Unopened p m := by
  -- There is no run loop and no heartbeat yet, so that most happenings come to nothing.
  have hrunning : r.isOver = false := by simp [isOver, Run.supervisor, h.watch]; rfl
  cases e with
  | move move =>
    cases move with
    | turn t =>
      cases t with
      | supervisor => cases he
      | loop =>
        have hsame : r.happen (.move (.turn .loop)) = r := by
          change r.advanceLoop = r
          simp [advanceLoop, hrunning, h.loop, unwind]
        rwa [hsame]
      | heartbeat i => exact h.withBeater i _
    | signalFirst =>
      have hsame : r.happen (.move .signalFirst) = r := by
        change r.look .signal = r
        rw [Run.look, h.watch]
        rfl
      rwa [hsame]
    | beatFirst i => exact h.withBeater i _
    | reschedule s => exact h.onWorld h.beaters h.records
    | setWallClock t => exact h.onWorld h.beaters h.records
    | signal due => exact ⟨h.plan, h.machine, h.span, h.watch, h.loop, h.beaters, h.records⟩
    | request health method uri => exact h.read _ health method uri
  | receive name =>
    have hsame : r.happen (.receive name) = r := by
      rw [Run.happen, Invocation.receive, Run.supervisor, h.watch]
      rfl
    rwa [hsame]
  | request inside health method uri => exact h.read inside health method uri
  | changeStore store => exact h.onWorld h.beaters h.records
  | answerLoop reply =>
    have hsame : r.happen (.answerLoop reply) = r := by
      simp [Run.happen, Run.answerLoop, hrunning, h.loop]
    rwa [hsame]
  | answerBeat i reply => exact h.withBeater i _
  | breakLoop how =>
    have hsame : r.happen (.breakLoop how) = r := by
      simp [Run.happen, Run.breakLoop, hrunning, h.loop]
    rwa [hsame]
  | breakBeat i => exact h.withBeater i _

lemma Unopened.happens (h : r.Unopened p m) {hs : List Happening}
    (hhs : ∀ e ∈ hs, e.isSupervision = false) : (r.happens hs).Unopened p m := by
  induction hs generalizing r with
  | nil => exact h
  | cons e rest ih =>
    exact ih (h.happen (hhs e List.mem_cons_self)) fun f hf => hhs f (List.mem_cons_of_mem e hf)

/-- What is logged before the move to running: a difference of roles outside every span, and then
the initialization inside the process span. -/
def opening (p : Plan) (m : Machine) (scope : Scope) : List LogRecord :=
  (if p.draft.role = p.role then [] else [⟨p.roleEvent, none⟩]) ++
    (startUp m p.draft).events.map (LogRecord.mk · (some scope))

lemma noteRoles_eq (r : Run) : ∃ t : Telemetry,
    t.records = r.records ++
      (if r.plan.draft.role = r.plan.role then [] else [⟨r.plan.roleEvent, r.scope⟩]) ∧
    r.noteRoles = r.onWorld fun w => { w with telemetry := t } := by
  rw [noteRoles]
  split
  · exact ⟨_, (List.append_nil _).symm, rfl⟩
  · exact ⟨_, Telemetry.records_log _ _ _, rfl⟩

lemma keepTraces_eq (i : Initialization) (scope : Scope) (r : Run) : ∃ t : Telemetry,
    t.records = r.records ++ i.events.map (LogRecord.mk · (some scope)) ∧
    r.keepTraces i scope =
      ({ r with machine := { r.machine with files := i.files } } : Run).onWorld fun w =>
        { w with telemetry := t } := by
  have hlogs (es : List Event) (r : Run) : ∃ t : Telemetry,
      t.records = r.records ++ es.map (LogRecord.mk · (some scope)) ∧
      es.foldl (fun r e => r.onWorld (World.log (some scope) e)) r =
        r.onWorld fun w => { w with telemetry := t } := by
    induction es generalizing r with
    | nil => exact ⟨_, (List.append_nil _).symm, rfl⟩
    | cons e rest ih =>
      obtain ⟨t, ht, heq⟩ := ih (r.onWorld (World.log (some scope) e))
      refine ⟨t, ?_, heq⟩
      rw [ht, List.map_cons, ← List.singleton_append, ← List.append_assoc]
      exact congrArg (· ++ _) (Telemetry.records_log _ _ _)
  exact hlogs i.events { r with machine := { r.machine with files := i.files } }

lemma Tagged.awaitSignal (h : r.Tagged scope prior) : r.awaitSignal.Tagged scope prior := by
  rw [Run.awaitSignal]
  split
  · exact h
  · next ms _ =>
    have hdue : ({ r with signalDue := some (r.schedule.now + ms) } : Run).Tagged scope prior :=
      ⟨h.span, h.begun, h.world⟩
    exact hdue.onSchedule _

lemma role_of_startUp {d : Draft} (hs : (startUp m d).outcome = .ok s) : s.role = d.role := by
  have hbuild := build_of_startUp hs
  rw [Draft.build] at hbuild
  split at hbuild
  · exact (Except.ok.inj hbuild) ▸ rfl
  · cases hbuild

lemma launch_eq (hs : (startUp r.machine r.plan.draft).outcome = .ok s) :
    let scope : Scope := ⟨r.plan.draft.role.component, r.session.world.wallClock⟩
    r.launch =
      (r.noteRoles.keepTraces (startUp r.machine r.plan.draft) scope).spawnLoop s scope := by
  -- The roles are noted in the log only, so what starts up is the machine of the run.
  obtain ⟨t, -, hroles⟩ := noteRoles_eq r
  rw [launch, hroles]
  split
  · next why hwhy => cases hs.symm.trans hwhy
  · next s' hs' =>
    obtain rfl := Except.ok.inj (hs.symm.trans hs')
    rfl

lemma tagged_spawnLoop (hwatch : r.watch = .initial) (hbeaters : r.session.world.beaters = [])
    (s : Service) (scope : Scope) : (r.spawnLoop s scope).Tagged scope
      (r.records ++ [⟨Tracker.initial.event .running, some scope⟩]) := by
  let spawned : Run :=
    { r with scope := some scope, watch := { r.watch with grace := r.plan.graceFor s },
             loop := .spawned s }
  have hlogged : (spawned.occur .initialized).records =
      r.records ++ [⟨Tracker.initial.event .running, some scope⟩] := by
    have hinitial : spawned.supervisor = .initial := congrArg Watch.supervisor hwatch
    change (spawned.supervisor.report (some scope) _ .initialized _).records = _
    rw [hinitial]
    exact Telemetry.records_log _ _ _
  have hbegun : (spawned.occur .initialized).Tagged scope
      (r.records ++ [⟨Tracker.initial.event .running, some scope⟩]) := by
    refine ⟨rfl, phase_react_initialized _, fun b hb => ?_, [], ?_⟩
    · change b ∈ r.session.world.beaters at hb
      simp [hbeaters] at hb
    · exact hlogged.trans (List.append_nil _).symm
  exact (hbegun.onSchedule _).awaitSignal

lemma Unopened.supervise (h : r.Unopened p m) (hs : (startUp m p.draft).outcome = .ok s) :
    let scope : Scope := ⟨s.role.component, r.session.world.wallClock⟩
    r.supervise.Tagged scope
      (opening p m scope ++ [⟨Tracker.initial.event .running, some scope⟩]) := by
  intro scope
  obtain ⟨rfl, rfl, hspan, hwatch, -, hbeaters, hrecords⟩ := h
  have hphase : r.supervisor.phase = .initializing := by rw [Run.supervisor, hwatch]; rfl
  have hscope : scope = ⟨r.plan.draft.role.component, r.session.world.wallClock⟩ := by
    rw [← role_of_startUp hs]
  obtain ⟨t, ht, hroles⟩ := noteRoles_eq r
  obtain ⟨t', ht', htraces⟩ := keepTraces_eq (startUp r.machine r.plan.draft) scope r.noteRoles
  have hopening : (r.noteRoles.keepTraces (startUp r.machine r.plan.draft) scope).records =
      opening r.plan r.machine scope := by
    rw [htraces]
    refine ht'.trans ?_
    rw [hroles, opening]
    refine congrArg (· ++ _) (ht.trans ?_)
    rw [hrecords, hspan, List.nil_append]
  rw [Run.supervise, hphase, launch_eq hs, ← hscope, ← hopening]
  refine Tagged.look (Tagged.look (tagged_spawnLoop ?_ ?_ s scope) _) _
  · rw [htraces, hroles]
    exact hwatch
  · rw [htraces, hroles]
    exact hbeaters

end Beginning

/-- A process runs while requests are served to it, inside whatever span, signals are sent, other
clients write to its store, and its store answers anything at any time or never. If it initializes,
then all that it logs from the move to running on is inside the span of this process, whichever task
logs it. Of this a level lets pass what is severe enough, and the span itself at the levels debug and
info only: at the others no record carries it. -/
theorem tagged_as_level_allows (script : Script) (wallClock : Timestamp) (uptimeSecs : Nat)
    (found : Store) (p : Plan) (m : Machine) (s : Service) (earlier later : List Happening)
    (hearlier : ∀ e ∈ earlier, e.isSupervision = false)
    (hs : (startUp m p.draft).outcome = .ok s) :
    let w := { World.new script wallClock uptimeSecs with store := found }
    let r := (start p m (.new w)).happens earlier
    let scope : Scope := ⟨s.role.component, r.session.world.wallClock⟩
    ∃ es : List Event, es.head? = some (Tracker.initial.event .running) ∧
      ((r.happen (.move (.turn .supervisor))).happens later).records =
        opening p m scope ++ es.map (LogRecord.mk · (some scope)) ∧
      ∀ l : LogLevel,
        (Filter.choose none l).apply (es.map (LogRecord.mk · (some scope))) =
          (es.filter fun e => e.severity.rank ≤ l.severity.rank).map
            (LogRecord.mk · (if l = .debug ∨ l = .info then some scope else none)) := by
  intro w r scope
  have hopened : r.Unopened p m := (unopened_start p m rfl rfl).happens hearlier
  obtain ⟨es, hes⟩ := ((hopened.supervise hs).happens later).world.telemetry
  refine ⟨Tracker.initial.event .running :: es, rfl, ?_, fun l => ?_⟩
  · exact hes.trans (List.append_assoc _ _ _)
  · rw [Filter.choose_none, Filter.apply_ofLevel, LogLevel.spanLeft_eq]
    rfl

/-- A device that logs warnings only, whose heartbeat crashes before it is told to stop. -/
theorem tagged_as_level_allows_acme :
    let d := (Draft.new .device).writeAll
      [.name "dev-1", .tenant "acme", .port "0", .logLevel "warn"]
    let p : Plan := ⟨.device, d, none, none⟩
    let m : Machine := ⟨"/", ⟨[], []⟩, fun _ => none, fun _ => none⟩
    let earlier : List Happening := [.move (.setWallClock ⟨5⟩)]
    let later : List Happening := [.move (.turn .loop), .breakBeat 0, .receive "SIGTERM"]
    let w := { World.new .empty .epoch 0 with store := .empty }
    let r := (start p m (.new w)).happens earlier
    let scope : Scope := ⟨"wfdevice", ⟨5⟩⟩
    (∀ e ∈ earlier, e.isSupervision = false) ∧
      ∃ s, (startUp m d).outcome = .ok s ∧ s.logLevel = .warn ∧ ∃ es : List Event,
        ((r.happen (.move (.turn .supervisor))).happens later).records =
          opening p m scope ++ es.map (LogRecord.mk · (some scope)) ∧
        (Filter.choose none s.logLevel).apply (es.map (LogRecord.mk · (some scope))) =
          (es.filter fun e => e.severity.rank ≤ Severity.warn.rank).map (LogRecord.mk · none) := by
  intro d p m earlier later w r scope
  have hearlier : ∀ e ∈ earlier, e.isSupervision = false := by
    simp [earlier, Happening.isSupervision]
  have hlevel : (startUp m d).outcome.toOption.map Service.logLevel = some .warn := by
    decide +kernel
  refine ⟨hearlier, ?_⟩
  cases hs : (startUp m d).outcome with
  | error why =>
    rw [hs] at hlevel
    cases hlevel
  | ok s =>
    have hrole : s.role = .device := role_of_startUp hs
    rw [hs] at hlevel
    have hwarn : s.logLevel = .warn := Option.some.inj hlevel
    obtain ⟨es, -, hrecords, hwritten⟩ :=
      tagged_as_level_allows .empty .epoch 0 .empty p m s earlier later hearlier hs
    rw [hrole] at hrecords hwritten
    exact ⟨s, rfl, hwarn, es, hrecords, hwarn ▸ hwritten .warn⟩

end DeviceFleet.Simulation.Run

namespace DeviceFleet.Simulation.Invocation

/-- At the level error a process comes to serve, its run loop fails, and the record that tells of it
is written without the span. -/
theorem run_loop_failure_untagged :
    let i : Invocation :=
      { role := .central
        words := ["--port", "0", "--data-dir", "f/sub", "--log-level", "error"]
        filterText := none
        signal := none
        machine := ⟨"/", ⟨[], [(["f"], .file [])]⟩, fun _ => none, fun _ => none⟩
        world := .new .empty .epoch 0 }
    i.exit.status = some 1 ∧
      i.exit.log.map (fun r => (r.event.severity, r.event.message, r.scope)) =
        [(.error, "Run loop failed", none)] := by
  decide +kernel

end DeviceFleet.Simulation.Invocation
