import DeviceFleet.Proofs.Agent.Pulse
import DeviceFleet.Proofs.Telemetry.Tagged

/-! The heartbeats of a simulated world beat as pulses do: those that begin, those that go on, and those
whose store answers them late. -/

namespace DeviceFleet.Pulse

open Heartbeat Simulation

/-- A pulse shows the heartbeat of a simulated world. -/
structure Shows (b : Beater) (w : World) (p : Pulse) : Prop where
  heartbeat : p.heartbeat = b.heartbeat
  phase : p.phase = b.phase
  now : p.now = w.schedule.now
  stopping : p.stopping = b.stopping

/-- What the loop does of its own, and what its store does to it. -/
def Happening.isTurn : Happening → Bool
  | .look .. | .answer _ | .crash => true
  | .stop | .tick => false

def Reaches (p q : Pulse) : Prop := ∃ es, (∀ e ∈ es, e.isTurn = true) ∧ p.run es = q

variable {p p' q : Pulse} {b : Beater} {w : World}

lemma Reaches.refl (p : Pulse) : p.Reaches p := ⟨[], nofun, rfl⟩

lemma Reaches.trans (h : p.Reaches p') (h' : p'.Reaches q) : p.Reaches q := by
  obtain ⟨earlier, hearlier, rfl⟩ := h
  obtain ⟨later, hlater, rfl⟩ := h'
  refine ⟨earlier ++ later, fun e he => ?_, run_append p earlier later⟩
  exact (List.mem_append.mp he).elim (hearlier e) (hlater e)

lemma reaches_step {e : Happening} (he : e.isTurn = true) (p : Pulse) : p.Reaches (p.step e) :=
  ⟨[e], by simpa using he, rfl⟩

def phaseOf (t : Ticker) : Progress BeatEnd → Phase
  | .finished _ => .waiting t
  | .stalled rest => .beating t rest
  | .crashed => .crashed

lemma phase_runBeat (b : Beater) (t : Ticker) (c : Client BeatEnd) (w : World) :
    (w.runBeat b t c).1 = { b with phase := phaseOf t (w.run b.scope c).1 } := by
  rw [World.runBeat]
  generalize w.run b.scope c = ran
  obtain ⟨progress, w'⟩ := ran
  cases progress <;> rfl

lemma rung_runBeat (h : w.schedule.rung ≤ w.schedule.now) (b : Beater) (t : Ticker)
    (c : Client BeatEnd) :
    (w.runBeat b t c).2.schedule.rung ≤ (w.runBeat b t c).2.schedule.now := by
  rw [(World.frame_runBeat b t c w).1]
  exact h

lemma Reaches.frame (h : p.Reaches q) :
    q.heartbeat = p.heartbeat ∧ q.now = p.now ∧ q.stopping = p.stopping := by
  obtain ⟨es, hes, rfl⟩ := h
  induction es generalizing p with
  | nil => exact ⟨rfl, rfl, rfl⟩
  | cons e rest ih =>
    have hrest := ih (p := p.step e) fun f hf => hes f (List.mem_cons_of_mem e hf)
    have hfirst := hes e List.mem_cons_self
    cases e with
    | look | answer | crash => exact hrest
    | stop | tick => cases hfirst

/-- Where a beat is that has this left to do. -/
def phaseWith (t : Ticker) : Client BeatEnd → Phase
  | .done _ => .waiting t
  | .call q next => .beating t (.call q next)

lemma reaches_answered {t : Ticker} {r : Request} {next : r.Result → Client BeatEnd}
    (h : p.phase = .beating t (.call r next)) (result : r.Result) :
    ∃ q, p.Reaches q ∧ q.phase = phaseWith t (next result) := by
  let reply := Function.update (fun q' : Request => (.error (.notFound q'.key) : q'.Result)) r result
  have hresult : reply r = result := Function.update_self ..
  refine ⟨p.step (.answer reply), reaches_step rfl p, ?_⟩
  change p.phase.answered reply = _
  rw [h, Phase.answered, hresult]
  cases next result <;> rfl

lemma reaches_progress {t : Ticker} (scope : Option Scope) {c : Client BeatEnd}
    (h : p.phase = phaseWith t c) (w : World) :
    ∃ q, p.Reaches q ∧ q.phase = phaseOf t (w.run scope c).1 := by
  induction c generalizing p w with
  | done e => exact ⟨p, .refl p, h⟩
  | call r next ih =>
    rw [World.run]
    generalize w.script.next r.operation = cued
    obtain ⟨cue, script⟩ := cued
    -- Whether the store or the script answers, the pulse takes the same answer.
    have hanswered (result : r.Result) (w' : World) :
        ∃ q, p.Reaches q ∧ q.phase = phaseOf t (w'.run scope (next result)).1 := by
      obtain ⟨p', hp', hphase⟩ := reaches_answered h result
      obtain ⟨q, hq, hlast⟩ := ih result hphase w'
      exact ⟨q, hp'.trans hq, hlast⟩
    cases cue with
    | pass => exact hanswered _ _
    | refuse kind => exact hanswered _ _
    | stall => exact ⟨p, .refl p, h⟩
    | crash => exact ⟨p.step .crash, reaches_step rfl p, rfl⟩

/-- A simulated heartbeat goes on as a pulse may that shows it. -/
def Shown (p : Pulse) (x : Beater × World) : Prop := ∃ q, p.Reaches q ∧ q.Shows x.1 x.2

lemma Reaches.shown {x : Beater × World} (h : p.Reaches q) (hq : q.Shown x) : p.Shown x := by
  obtain ⟨q', hq', hshows⟩ := hq
  exact ⟨q', h.trans hq', hshows⟩

lemma shown_runBeat (hb : p.heartbeat = b.heartbeat) (hnow : p.now = w.schedule.now)
    (hstopping : p.stopping = b.stopping) {t : Ticker} {c : Client BeatEnd}
    (hphase : p.phase = phaseWith t c) : p.Shown (w.runBeat b t c) := by
  obtain ⟨q, hq, hlast⟩ := reaches_progress b.scope hphase w
  obtain ⟨hqb, hqnow, hqstopping⟩ := hq.frame
  refine ⟨q, hq, ?_⟩
  have hschedule := (World.frame_runBeat b t c w).1
  have hbeater := phase_runBeat b t c w
  generalize w.runBeat b t c = x at hschedule hbeater
  obtain ⟨b', w'⟩ := x
  obtain rfl : b' = { b with phase := phaseOf t (w.run b.scope c).1 } := hbeater
  have hwhen : w'.schedule.now = w.schedule.now := congrArg Schedule.now hschedule
  exact ⟨hqb.trans hb, hlast, hqnow.trans (hnow.trans hwhen.symm), hqstopping.trans hstopping⟩

lemma phase_look (late : Nat) (p : Pulse) :
    (p.look late false).phase = p.heartbeat.wake p.stopping (p.now - late) p.now p.phase := by
  simp [look, enter, heeds]

lemma Shows.shown_wakeBeater (h : p.Shows b w) (hrung : w.schedule.rung ≤ w.schedule.now)
    (fuel : Nat) : p.Shown (World.wakeBeater fuel b w) := by
  induction fuel generalizing p b w with
  | zero => exact ⟨p, .refl p, h⟩
  | succ fuel ih =>
    have hrest : p.Shown (b, w) := ⟨p, .refl p, h⟩
    obtain ⟨hbeat, hat, hnow, hstop⟩ := h
    let late := w.schedule.now - w.schedule.rung
    have hlook : p.Reaches (p.look late false) := reaches_step (e := .look late false) rfl p
    have hphase := phase_look late p
    have hheard : p.now - late = w.schedule.rung := by rw [hnow, Nat.sub_sub_self hrung]
    rw [hheard, hat, hbeat, hstop, hnow] at hphase
    cases hwaits : b.phase with
    | waiting t =>
      rw [hwaits, Heartbeat.wake] at hphase
      rw [World.wakeBeater, hwaits, Heartbeat.wake]
      cases hstopping : b.stopping with
      | true =>
        rw [hstopping] at hphase
        exact ⟨_, hlook, hbeat, hphase, hnow, hstop.trans hstopping⟩
      | false =>
        rw [hstopping] at hphase
        cases hdue : t.isDue w.schedule.rung with
        | true =>
          rw [hdue] at hphase
          obtain ⟨q, hq, hshows⟩ : (p.look late false).Shown
              (w.runBeat b (t.fire w.schedule.now) (beat b.heartbeat.record)) :=
            shown_runBeat (p := p.look late false) hbeat hnow hstop hphase
          exact (hlook.trans hq).shown (ih hshows (rung_runBeat hrung b _ _))
        | false => exact hrest
    | spawned | beating | ended | crashed =>
      simpa only [World.wakeBeater, hwaits, Heartbeat.wake] using hrest

theorem shown_advanceBeater_of_spawned (hphase : b.phase = .spawned)
    (hrung : w.schedule.rung ≤ w.schedule.now) :
    { begin b.heartbeat w.uptimeSecs w.schedule.now with stopping := b.stopping : Pulse }.Shown
      (w.advanceBeater b) := by
  rw [World.advanceBeater, hphase]
  exact Shows.shown_wakeBeater (w := (w.beginBeater b).2) ⟨rfl, rfl, rfl, rfl⟩ hrung _

theorem Shows.shown_advanceBeater (h : p.Shows b w) (hphase : p.phase ≠ .spawned)
    (hrung : w.schedule.rung ≤ w.schedule.now) : p.Shown (w.advanceBeater b) := by
  rw [World.advanceBeater]
  split
  · next hspawned => exact absurd (h.phase.trans hspawned) hphase
  · exact h.shown_wakeBeater hrung World.beatsAllowed

/-- A pulse that is told to stop and beats first shows what a simulated heartbeat does then. -/
theorem Shows.shown_beatFirst (h : p.Shows b w) (hrung : w.schedule.rung ≤ w.schedule.now) :
    p.Shown (w.beatFirst b) := by
  refine World.beatFirst_keeps (fun t hwaits hdue => ?_) ⟨p, .refl p, h⟩
  obtain ⟨hbeat, hat, hnow, hstop⟩ := h
  let late := w.schedule.now - w.schedule.rung
  have hheard : p.now - late = w.schedule.rung := by rw [hnow, Nat.sub_sub_self hrung]
  have hheeds : p.heeds w.schedule.rung true = false := by
    simp [heeds, hat, hwaits, Phase.due?, hdue]
  have hphase : (p.look late true).phase =
      phaseWith (t.fire w.schedule.now) (beat b.heartbeat.record) := by
    change p.heartbeat.wake (p.heeds (p.now - late) true) (p.now - late) p.now p.phase = _
    rw [hheard, hheeds, hat, hwaits, hbeat, hnow, Heartbeat.wake, if_neg Bool.false_ne_true,
      Ticker.isDue, if_pos (decide_eq_true hdue)]
    rfl
  have hlook : p.Reaches (p.look late true) := reaches_step (e := .look late true) rfl p
  exact hlook.shown (shown_runBeat (p := p.look late true) hbeat hnow hstop hphase)

theorem Shows.shown_answerBeat (h : p.Shows b w) (hrung : w.schedule.rung ≤ w.schedule.now)
    (reply : (q : Request) → q.Result) : p.Shown (World.answerBeat reply b w) := by
  have hrest : p.Shown (b, w) := ⟨p, .refl p, h⟩
  obtain ⟨hbeat, hat, hnow, hstop⟩ := h
  rw [World.answerBeat]
  split
  · next t r next hbeating =>
    obtain ⟨p', hp', hphase⟩ := reaches_answered (hat.trans hbeating) (reply r)
    obtain ⟨hb, hn, hs⟩ := hp'.frame
    obtain ⟨q, hq, hshows⟩ :=
      shown_runBeat (hb.trans hbeat) (hn.trans hnow) (hs.trans hstop) hphase
    exact (hp'.trans hq).shown (hshows.shown_wakeBeater (rung_runBeat hrung b _ _) _)
  · exact hrest

end DeviceFleet.Pulse
