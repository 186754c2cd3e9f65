import DeviceFleet.Proofs.Lifecycle.Deadline
import Mathlib.Logic.Relation

/-! The supervisor of a run in virtual time moves as in a vigil: from its launch on, at its turns,
at the end of its loop, and as time passes. -/

namespace DeviceFleet

namespace Simulation

namespace Schedule

variable {s t u : Schedule}

def SameTime (s t : Schedule) : Prop := t.now = s.now ∧ t.rung = s.rung

lemma SameTime.trans (h : s.SameTime t) (h' : t.SameTime u) : s.SameTime u :=
  ⟨h'.1.trans h.1, h'.2.trans h.2⟩

lemma sameTime_wake (task : Task) (s : Schedule) : s.SameTime (s.wake task) := by
  rw [wake]
  split <;> exact ⟨rfl, rfl⟩

lemma sameTime_setAlarm (due : Nat) (task : Task) (s : Schedule) :
    s.SameTime (s.setAlarm due task) := by
  rw [setAlarm]
  split <;> exact ⟨rfl, rfl⟩

lemma sameTime_wakeAll {α : Type} (task : α → Task) (xs : List α) (s : Schedule) :
    s.SameTime (xs.foldl (fun s x => s.wake (task x)) s) := by
  induction xs generalizing s with
  | nil => exact ⟨rfl, rfl⟩
  | cons x rest ih => exact (sameTime_wake (task x) s).trans (ih (s.wake (task x)))

lemma now_ring (s : Schedule) : s.ring.now = s.now :=
  (sameTime_wakeAll Alarm.task s.dueAlarms s).1

end Schedule

namespace Run

variable {r r' r'' : Run}

/-- Nothing happens that the supervisor could see. -/
structure Aside (r r' : Run) : Prop where
  plan : r'.plan = r.plan
  time : r.schedule.SameTime r'.schedule
  watch : r'.watch = r.watch
  ended : r'.loop.end? = r.loop.end?
  due : r'.signalDue = r.signalDue

lemma Aside.refl (r : Run) : r.Aside r := ⟨rfl, ⟨rfl, rfl⟩, rfl, rfl, rfl⟩

lemma Aside.trans (h : r.Aside r') (h' : r'.Aside r'') : r.Aside r'' :=
  ⟨h'.plan.trans h.plan, h.time.trans h'.time, h'.watch.trans h.watch, h'.ended.trans h.ended,
    h'.due.trans h.due⟩

lemma aside_onWorld {f : World → World} (h : r.schedule.SameTime (f r.session.world).schedule) :
    r.Aside (r.onWorld f) := ⟨rfl, h, rfl, rfl, rfl⟩

lemma aside_logAll (scope : Option Scope) (es : List Event) (r : Run) :
    r.Aside (es.foldl (fun r e => r.onWorld (World.log scope e)) r) := by
  induction es generalizing r with
  | nil => exact .refl r
  | cons e rest ih =>
    have hlog : r.Aside (r.onWorld (World.log scope e)) := aside_onWorld ⟨rfl, rfl⟩
    exact hlog.trans (ih _)

lemma aside_noteRoles (r : Run) : r.Aside r.noteRoles := by
  rw [noteRoles]
  split
  · exact .refl r
  · exact aside_onWorld ⟨rfl, rfl⟩

lemma machine_noteRoles (r : Run) : r.noteRoles.machine = r.machine := by
  rw [noteRoles]
  split <;> rfl

lemma aside_keepTraces (i : Initialization) (scope : Scope) (r : Run) :
    r.Aside (r.keepTraces i scope) := by
  have hmachine : r.Aside { r with machine := { r.machine with files := i.files } } :=
    ⟨rfl, ⟨rfl, rfl⟩, rfl, rfl, rfl⟩
  exact hmachine.trans (aside_logAll (some scope) i.events _)

lemma sameTime_unwindService (r : Run) : r.schedule.SameTime r.unwindService.schedule :=
  (Schedule.sameTime_wakeAll id (r.session.world.waitingTasks .service) r.schedule).trans
    ((Schedule.sameTime_wake .loop _).trans
      (Schedule.sameTime_setAlarm (r.schedule.now + r.watch.grace) .supervisor _))

lemma awaitSignal_eq (r : Run) : r.schedule.SameTime r.awaitSignal.schedule ∧
    r.awaitSignal.watch = r.watch ∧ r.awaitSignal.loop = r.loop := by
  rw [awaitSignal]
  cases r.plan.signalAfter with
  | none => exact ⟨⟨rfl, rfl⟩, rfl, rfl⟩
  | some ms => exact ⟨Schedule.sameTime_setAlarm (r.schedule.now + ms) .supervisor _, rfl, rfl⟩

/-- What the supervisor would find ready at some instant. -/
def readyAt (instant : Nat) (r : Run) : Option Occurrence :=
  r.watch.ready? .ending r.loop.end? (r.signalDue.any (· ≤ instant)) instant

def moveTo (instant : Nat) (r : Run) : Run := r.onSchedule fun s => (s.moveTo instant).ring

/-- All that the supervisor of a run can notice: the end of its loop, its own turns, a look at which
it has its choice, and that time passes, which it does up to an instant before which nothing gets
ready. -/
inductive Turned (r : Run) : Run → Prop
  | aside {r' : Run} : r.Aside r' → Turned r r'
  | ended (how : LoopEnd) : r.loop.end? = none → Turned r (r.endLoop how)
  | supervised : Turned r r.supervise
  | looked (p : Preference) : Turned r (r.look p)
  | passed {instant : Nat} : r.schedule.now < instant →
      (∀ t, r.schedule.now ≤ t → t < instant → r.readyAt t = none) → Turned r (r.moveTo instant)

end Run

end Simulation

lemma Watch.ready?_eq_none {w : Watch} {ended : Option LoopEnd} {now : Nat} {early late : Bool}
    (h : w.ready? .ending ended late now = none) (hle : early = true → late = true) :
    w.ready? .ending ended early now = none := by
  obtain ⟨⟨phase, tracker, readyCount, stopAsked⟩, grace, deadline⟩ := w
  cases phase with
  | serving =>
    cases ended with
    | none =>
      have hlate : late = false := by simpa [Watch.ready?] using h
      have hearly : early = false := Bool.eq_false_iff.mpr fun he => by simp [hle he] at hlate
      simp [Watch.ready?, hearly]
    | some how => simp [Watch.ready?] at h
  | initializing | unwinding | returned r => cases ended <;> exact h

namespace Vigil

open Simulation

/-- A run whose supervisor stands as in a vigil, and finds the same ready. -/
structure Shows (v : Vigil) (r : Run) : Prop where
  begun : v.phase ≠ .initializing
  now : r.schedule.now = v.now
  rung : r.schedule.rung = v.now
  watch : r.watch = v.watch
  ended : r.loop.end? = v.ended.map Prod.snd
  signaled : r.isSignaled = !v.signals.isEmpty

variable {v w : Vigil} {r r' : Run}

lemma Shows.aside (h : v.Shows r) (ha : r.Aside r') : v.Shows r' where
  begun := h.begun
  now := ha.time.1.trans h.now
  rung := ha.time.2.trans h.rung
  watch := ha.watch.trans h.watch
  ended := ha.ended.trans h.ended
  signaled := by rw [← h.signaled, Run.isSignaled, Run.isSignaled, ha.due, ha.time.2]

lemma Shows.takeUp (h : v.Shows r) {o : Occurrence} (htime : r.schedule.SameTime r'.schedule)
    (hloop : r'.loop = r.loop) (hdue : r'.signalDue = r.signalDue)
    (hwatch : r'.watch = r.watch.takeUp r.schedule.now o)
    (hphase : (v.takeUp o).phase ≠ .initializing) : (v.takeUp o).Shows r' where
  begun := hphase
  now := htime.1.trans h.now
  rung := htime.2.trans h.rung
  watch := by
    rw [hwatch, h.watch, h.now]
    rfl
  ended := by
    rw [hloop, h.ended]
    rfl
  signaled := by
    have hsignals : (v.takeUp o).signals = v.signals := rfl
    rw [hsignals, ← h.signaled, Run.isSignaled, Run.isSignaled, hdue, htime.2]

lemma Shows.endLoop (h : v.Shows r) (hend : r.loop.end? = none) (how : LoopEnd) :
    (v.loopEnds how).Shows (r.endLoop how) := by
  have hnone : v.ended = none := by simpa [h.ended] using hend
  have hv : v.loopEnds how = { v with ended := some (v.now, how) } := by
    rw [loopEnds, hnone]
    cases hv : v.phase with
    | initializing => exact absurd hv h.begun
    | _ => rfl
  obtain ⟨hnow, hrung⟩ := Schedule.sameTime_wake .supervisor r.schedule
  have hsignaled : (r.endLoop how).isSignaled = r.isSignaled :=
    congrArg (fun rung : Nat => r.signalDue.any fun due => decide (due ≤ rung)) hrung
  rw [hv]
  exact ⟨h.begun, hnow.trans h.now, hrung.trans h.rung, h.watch, rfl, hsignaled.trans h.signaled⟩

lemma ready?_of_begun (h : v.phase ≠ .initializing) (p : Preference) :
    v.ready? p = v.watch.ready? p (v.ended.map Prod.snd) (!v.signals.isEmpty) v.now := by
  rw [ready?]
  cases hv : v.phase with
  | initializing => exact absurd hv h
  | _ => rfl

lemma phase_look_ne_initializing (hphase : v.phase ≠ .initializing) (p : Preference) :
    (v.look p).phase ≠ .initializing := by
  have hlooked := looked p v
  generalize v.look p = w at hlooked
  cases hlooked with
  | rested => exact hphase
  | began h => exact absurd h hphase
  | signaled _ _ hnext | ended _ _ hnext | unwound _ _ hnext | cutOff _ _ _ _ hnext => simp [hnext]

lemma Shows.look (h : v.Shows r) (p : Preference) : (v.look p).Shows (r.look p) := by
  have hready : r.watch.ready? p r.loop.end? r.isSignaled r.schedule.rung = v.ready? p := by
    rw [ready?_of_begun h.begun, h.watch, h.ended, h.signaled, h.rung]
  have hphase := phase_look_ne_initializing h.begun p
  rw [Run.look, hready]
  cases ho : v.ready? p with
  | none =>
    rw [look_of_idle (idle_of_ready? ho)]
    exact h
  | some o =>
    rw [look_of_ready ho] at hphase ⊢
    cases o with
    | terminationRequested => exact h.takeUp (Run.sameTime_unwindService r) rfl rfl rfl hphase
    | _ => exact h.takeUp ⟨rfl, rfl⟩ rfl rfl rfl hphase

lemma Shows.supervise (h : v.Shows r) :
    (v.run [.look .ending, .look .ending]).Shows r.supervise := by
  have hturn : r.supervise = (r.look .ending).look .ending := by
    have hr : r.supervisor.phase = v.phase := congrArg (·.supervisor.phase) h.watch
    rw [Run.supervise, hr]
    cases hv : v.phase with
    | initializing => exact absurd hv h.begun
    | _ => rfl
  rw [hturn]
  exact (h.look _).look _

lemma run_ticks (n : Nat)
    (h : ∀ i < n, ({ v with now := v.now + i } : Vigil).ready? .ending = none) :
    v.run (List.replicate n .tick) = { v with now := v.now + n } := by
  induction n generalizing v with
  | zero => rfl
  | succ n ih =>
    have hready : v.ready? .ending = none := h 0 (Nat.succ_pos n)
    have htick : v.tick = { v with now := v.now + 1 } := by
      rw [tick, hready]
      rfl
    rw [List.replicate_succ, run, List.foldl_cons]
    change v.tick.run _ = _
    rw [htick, ih]
    · simp only [Nat.add_assoc, Nat.add_comm 1 n]
    · intro i hi
      simpa only [Nat.add_assoc, Nat.add_comm 1 i] using h (i + 1) (Nat.succ_lt_succ hi)

lemma Shows.ready?_of_readyAt (h : v.Shows r) {t : Nat} (hle : v.now ≤ t)
    (hready : r.readyAt t = none) : ({ v with now := t } : Vigil).ready? .ending = none := by
  have hbegun : ({ v with now := t } : Vigil).phase ≠ .initializing := h.begun
  rw [ready?_of_begun hbegun]
  rw [Run.readyAt, h.watch, h.ended] at hready
  apply Watch.ready?_eq_none hready
  intro hs
  rw [← h.signaled] at hs
  obtain ⟨due, hdue, hpast⟩ := (Option.any_eq_true _ _).mp hs
  refine (Option.any_eq_true _ _).mpr ⟨due, hdue, ?_⟩
  simp only [decide_eq_true_eq, h.rung] at hpast ⊢
  exact Nat.le_trans hpast hle

lemma Shows.moveTo (h : v.Shows r) {instant : Nat} (hlt : r.schedule.now < instant)
    (hquiet : ∀ t, r.schedule.now ≤ t → t < instant → r.readyAt t = none) :
    ∃ hs, (v.run hs).Shows (r.moveTo instant) := by
  rw [h.now] at hlt hquiet
  have hticks : v.run (List.replicate (instant - v.now) .tick) = { v with now := instant } := by
    rw [run_ticks (instant - v.now) fun i hi =>
      h.ready?_of_readyAt (Nat.le_add_right _ i) (hquiet _ (Nat.le_add_right _ i) (by omega))]
    rw [Nat.add_sub_of_le (Nat.le_of_lt hlt)]
  have hnow : (r.moveTo instant).schedule.now = instant := Schedule.now_ring _
  have hrung : (r.moveTo instant).schedule.rung = instant := rfl
  have hlasts : r.isSignaled = true → (r.moveTo instant).isSignaled = true := by
    intro hs
    obtain ⟨due, hdue, hle⟩ := (Option.any_eq_true _ _).mp hs
    refine (Option.any_eq_true _ _).mpr ⟨due, hdue, ?_⟩
    simp only [decide_eq_true_eq, h.rung] at hle ⊢
    exact Nat.le_trans hle (Nat.le_of_lt hlt)
  -- A signal that is due by then comes at the end of the wait.
  cases hnew : (r.moveTo instant).isSignaled with
  | true =>
    refine ⟨List.replicate (instant - v.now) .tick ++ [.signal], ?_⟩
    rw [run_append, hticks]
    exact ⟨h.begun, hnow, hrung, h.watch, h.ended, by simp [hnew, run, step]⟩
  | false =>
    refine ⟨List.replicate (instant - v.now) .tick, ?_⟩
    rw [hticks]
    refine ⟨h.begun, hnow, hrung, h.watch, h.ended, ?_⟩
    rw [hnew, ← h.signaled]
    exact (Bool.eq_false_iff.mpr fun hs => Bool.eq_false_iff.mp hnew (hlasts hs)).symm

lemma Shows.turned (h : v.Shows r) (hr : r.Turned r') : ∃ hs, (v.run hs).Shows r' := by
  cases hr with
  | aside ha => exact ⟨[], h.aside ha⟩
  | ended how hend => exact ⟨[.loopEnds how], h.endLoop hend how⟩
  | supervised => exact ⟨_, h.supervise⟩
  | looked p => exact ⟨[.look p], h.look p⟩
  | passed hlt hquiet => exact h.moveTo hlt hquiet

lemma shows_spawnLoop (hinitial : r.watch = .initial) (hrung : r.schedule.rung = r.schedule.now)
    (s : Service) (scope : Scope) :
    ∃ hs, ((begin r.schedule.now (r.plan.graceFor s)).run hs).Shows (r.spawnLoop s scope) := by
  let started := (begin r.schedule.now (r.plan.graceFor s)).takeUp .initialized
  let watch := { r.watch with grace := r.plan.graceFor s }
  let spawned := { r with scope := some scope, watch, loop := .spawned s }.occur .initialized
  obtain ⟨htime, hwatch, hloop⟩ := (spawned.onSchedule (Schedule.wake .loop)).awaitSignal_eq
  have hspawned : r.schedule.SameTime (r.spawnLoop s scope).schedule :=
    (Schedule.sameTime_wake .loop r.schedule).trans htime
  have hnow : (r.spawnLoop s scope).schedule.now = started.now := hspawned.1
  have hlast : (r.spawnLoop s scope).schedule.rung = started.now := hspawned.2.trans hrung
  have hsame : (r.spawnLoop s scope).watch = started.watch := by
    refine hwatch.trans ?_
    change watch.takeUp r.schedule.now .initialized = _
    simp only [watch, hinitial]
    rfl
  have hnone : (r.spawnLoop s scope).loop.end? = none := congrArg RunLoop.end? hloop
  have hserving : started.phase = .serving := rfl
  have hbegun : started.phase ≠ .initializing := by simp [hserving]
  cases hsignaled : (r.spawnLoop s scope).isSignaled with
  | true =>
    exact ⟨[.look .ending, .signal], hbegun, hnow, hlast, hsame, hnone,
      hsignaled.trans (by simp [run, step])⟩
  | false => exact ⟨[.look .ending], hbegun, hnow, hlast, hsame, hnone, hsignaled⟩

lemma shows_launch {s : Service} (hinitial : r.watch = .initial)
    (hrung : r.schedule.rung = r.schedule.now)
    (hready : (startUp r.machine r.plan.draft).outcome = .ok s) :
    ∃ hs, ((begin r.schedule.now (r.plan.graceFor s)).run hs).Shows r.launch := by
  have hroles := r.aside_noteRoles
  rw [← r.machine_noteRoles, ← hroles.plan] at hready
  rw [Run.launch, hready]
  generalize startUp r.noteRoles.machine r.noteRoles.plan.draft = i
  have haside (scope : Scope) : r.Aside (r.noteRoles.keepTraces i scope) :=
    hroles.trans (Run.aside_keepTraces i scope _)
  have hspawn (scope : Scope) := shows_spawnLoop ((haside scope).watch.trans hinitial)
    ((haside scope).time.2.trans (hrung.trans (haside scope).time.1.symm)) s scope
  simp only [(haside _).time.1, (haside _).plan] at hspawn
  exact hspawn _

/-- Whatever a run goes through after its launch, its supervisor goes through in a vigil. -/
lemma exists_shows {s : Service} (hinitial : r.watch = .initial)
    (hrung : r.schedule.rung = r.schedule.now)
    (hready : (startUp r.machine r.plan.draft).outcome = .ok s)
    (hturns : Relation.ReflTransGen Run.Turned r.launch r') :
    ∃ hs, ((begin r.schedule.now (r.plan.graceFor s)).run hs).Shows r' := by
  induction hturns with
  | refl => exact shows_launch hinitial hrung hready
  | tail _ hlast ih =>
    obtain ⟨earlier, hshows⟩ := ih
    obtain ⟨later, hnext⟩ := hshows.turned hlast
    exact ⟨earlier ++ later, (run_append _ earlier later).symm ▸ hnext⟩

/-- So what a run returns is decided by the instants of its first signal and of its loop's end. -/
theorem verdict_of_result {s : Service} {result : RunResult} (hinitial : r.watch = .initial)
    (hrung : r.schedule.rung = r.schedule.now)
    (hready : (startUp r.machine r.plan.draft).outcome = .ok s)
    (hturns : Relation.ReflTransGen Run.Turned r.launch r')
    (hresult : r'.supervisor.result? = some result) :
    ∃ signal ended t, Verdict (r.plan.graceFor s) signal ended t result ∧
      ended.map Prod.snd = r'.loop.end? ∧ signal.isSome = r'.isSignaled ∧ t ≤ r'.schedule.now := by
  obtain ⟨hs, hshows⟩ := exists_shows hinitial hrung hready hturns
  have hsound := (sound_begin r.schedule.now (r.plan.graceFor s)).run hs
  have hgrace := grace_run (begin r.schedule.now (r.plan.graceFor s)) hs
  generalize (begin r.schedule.now (r.plan.graceFor s)).run hs = v at *
  have hphase : v.phase = .returned result := by
    have hwatch : r'.supervisor = v.watch.supervisor := congrArg Watch.supervisor hshows.watch
    rw [hwatch] at hresult
    exact Supervisor.result?_eq_some_iff.mp hresult
  have hstanding := hsound.standing
  rw [hphase] at hstanding
  cases hstanding with
  | returned _ hle hverdict =>
    rw [hgrace] at hverdict
    refine ⟨_, _, _, hverdict, hshows.ended.symm, ?_, hshows.now ▸ hle⟩
    rw [hshows.signaled]
    cases v.signals <;> rfl

end Vigil

end DeviceFleet
