import DeviceFleet.Proofs.Agent.Pulse
import DeviceFleet.Proofs.Lifecycle.Turns
import DeviceFleet.Proofs.Telemetry.Tagged

/-! The timers of heartbeats. A heartbeat is set for one interval ahead, which the clock must be able
to show; where no call of a client crashes, a heartbeat crashes for its interval only. -/

namespace DeviceFleet

lemma Ticker.canStart_seconds_iff (uptimeSecs now : Nat) {secs : Nat} (h : 0 < secs) :
    Ticker.canStart uptimeSecs now (1000 * secs) = true ↔
      uptimeSecs + now / 1000 + secs ≤ Ticker.lastSecond := by
  have hsecs : (now + 1000 * secs) / 1000 = now / 1000 + secs :=
    Nat.add_mul_div_left now secs (by decide)
  have hperiod : 1000 * secs ≠ 0 := by omega
  simp [Ticker.canStart, hsecs, hperiod, Nat.add_assoc]

/-- A ticker that has gone off is due a period later, at the latest. -/
lemma Ticker.due_fire_le {t : Ticker} {now : Nat} (h : t.due ≤ now) :
    (t.fire now).due ≤ now + t.period := by
  rw [Ticker.fire]
  dsimp only
  split
  · exact le_rfl
  · exact Nat.add_le_add_right h t.period

namespace Simulation

variable {α : Type} {uptimeSecs secs : Nat} {shown : List Nat}

/-- No call brings its caller down. -/
def Script.IsGentle (s : Script) : Prop := ∀ op, .crash ∉ s.cues op

lemma Script.cues_setCues (s : Script) (cs : List Cue) (op op' : Operation) :
    (s.setCues cs op).cues op' = if op' = op then cs else s.cues op' := by
  cases op <;> cases op' <;> rfl

lemma Script.IsGentle.next {s : Script} (h : s.IsGentle) (op : Operation) :
    (s.next op).1 ≠ .crash ∧ (s.next op).2.IsGentle := by
  have hop := h op
  rw [Script.next]
  cases hcues : s.cues op with
  | nil => exact ⟨nofun, h⟩
  | cons c rest =>
    rw [hcues, List.mem_cons, not_or] at hop
    refine ⟨Ne.symm hop.1, fun op' => ?_⟩
    rw [Script.cues_setCues]
    split
    · exact hop.2
    · exact h op'

/-- A heartbeat with this interval, on a clock that has shown these instants: if it has begun, it has
crashed just when the end of its first interval was beyond the clock, and it is never set for more
than one interval ahead. -/
structure Beater.Timed (uptimeSecs secs : Nat) (shown : List Nat) (b : Beater) : Prop where
  period : b.heartbeat.period = 1000 * secs
  begun : b.phase = .spawned ∨ ∃ start ∈ shown,
    (b.phase.isCrashed = true ↔ Ticker.lastSecond < uptimeSecs + start / 1000 + secs)
  ticker : ∀ t, b.phase.ticker? = some t →
    t.period = 1000 * secs ∧ ∃ now ∈ shown, t.due ≤ now + 1000 * secs

lemma Beater.Timed.goOn {b : Beater} (h : b.Timed uptimeSecs secs shown) {t : Ticker}
    (ht : b.phase.ticker? = some t) {phase : Heartbeat.Phase} (hphase : phase.isCrashed = false)
    (hticker : ∀ u, phase.ticker? = some u →
      u.period = 1000 * secs ∧ ∃ now ∈ shown, u.due ≤ now + 1000 * secs) :
    ({ b with phase } : Beater).Timed uptimeSecs secs shown := by
  have hworks : b.phase ≠ .spawned ∧ b.phase.isCrashed = false := by
    cases hb : b.phase with
    | waiting | beating => exact ⟨nofun, rfl⟩
    | spawned | ended | crashed => simp [hb, Heartbeat.Phase.ticker?] at ht
  refine ⟨h.period, .inr ?_, hticker⟩
  obtain ⟨start, hstart, hcrashed⟩ := h.begun.resolve_left hworks.1
  refine ⟨start, hstart, ?_⟩
  rw [hworks.2] at hcrashed
  exact hphase.symm ▸ hcrashed

namespace World

variable {w w' : World} {b : Beater}

structure Timed (uptimeSecs secs : Nat) (shown : List Nat) (w : World) : Prop where
  interval : 0 < secs
  uptime : w.uptimeSecs = uptimeSecs
  now : w.schedule.now ∈ shown
  rung : w.schedule.rung ≤ w.schedule.now
  script : w.script.IsGentle
  beaters : ∀ b ∈ w.beaters, b.Timed uptimeSecs secs shown

lemma Timed.goOn (h : w.Timed uptimeSecs secs shown) (huptime : w'.uptimeSecs = w.uptimeSecs)
    (htime : w.schedule.SameTime w'.schedule) (hscript : w'.script.IsGentle)
    (hbeaters : ∀ b ∈ w'.beaters, b.Timed uptimeSecs secs shown) :
    w'.Timed uptimeSecs secs shown where
  interval := h.interval
  uptime := huptime.trans h.uptime
  now := htime.1.symm ▸ h.now
  rung := htime.1.symm ▸ htime.2.symm ▸ h.rung
  script := hscript
  beaters := hbeaters

lemma gentle_run (h : w.script.IsGentle) (scope : Option Scope) (c : Client α) :
    (w.run scope c).2.script.IsGentle ∧ (w.run scope c).2.uptimeSecs = w.uptimeSecs ∧
      ∀ w', w.run scope c ≠ (.crashed, w') := by
  induction c generalizing w with
  | done a => exact ⟨h, rfl, by simp [World.run]⟩
  | call q next ih =>
    obtain ⟨hcue, hscript⟩ := h.next q.operation
    rw [World.run]
    generalize w.script.next q.operation = cued at hcue hscript
    obtain ⟨cue, script⟩ := cued
    cases cue with
    | pass => exact ih _ hscript
    | refuse kind => exact ih _ hscript
    | stall => exact ⟨hscript, rfl, by simp⟩
    | crash => exact absurd rfl hcue

lemma Timed.run (h : w.Timed uptimeSecs secs shown) (scope : Option Scope) (c : Client α) :
    (w.run scope c).2.Timed uptimeSecs secs shown := by
  obtain ⟨hschedule, hbeaters⟩ := frame_run scope c w
  obtain ⟨hscript, huptime, -⟩ := gentle_run h.script scope c
  exact h.goOn huptime ⟨congrArg _ hschedule, congrArg _ hschedule⟩ hscript
    (hbeaters.symm ▸ h.beaters)

/-- A heartbeat at its turn, and the world around it. -/
structure TimedAt (uptimeSecs secs : Nat) (shown : List Nat) (x : Beater × World) : Prop where
  beater : x.1.Timed uptimeSecs secs shown
  world : x.2.Timed uptimeSecs secs shown

lemma Timed.reportBeat (h : w.Timed uptimeSecs secs shown) (r : Record) (scope : Option Scope)
    (e : BeatEnd) : (w.reportBeat r scope e).Timed uptimeSecs secs shown := by
  cases e <;> exact ⟨h.interval, h.uptime, h.now, h.rung, h.script, h.beaters⟩

lemma timedAt_runBeat (h : TimedAt uptimeSecs secs shown (b, w)) {t u : Ticker}
    (ht : b.phase.ticker? = some t) (hperiod : u.period = 1000 * secs)
    (hdue : ∃ now ∈ shown, u.due ≤ now + 1000 * secs) (c : Client BeatEnd) :
    TimedAt uptimeSecs secs shown (w.runBeat b u c) := by
  have hworld := h.world.run b.scope c
  obtain ⟨-, -, hcrash⟩ := gentle_run h.world.script b.scope c
  have hticker : ∀ v, some u = some v →
      v.period = 1000 * secs ∧ ∃ now ∈ shown, v.due ≤ now + 1000 * secs := by
    rintro v ⟨⟩
    exact ⟨hperiod, hdue⟩
  rw [runBeat]
  generalize w.run b.scope c = ran at hworld hcrash
  obtain ⟨progress, w'⟩ := ran
  cases progress with
  | finished e => exact ⟨h.beater.goOn ht rfl hticker, hworld.reportBeat _ _ e⟩
  | stalled rest => exact ⟨h.beater.goOn ht rfl hticker, hworld⟩
  | crashed => exact absurd rfl (hcrash w')

/-- One beat of a heartbeat whose ticker has gone off. -/
lemma timedAt_beat (h : TimedAt uptimeSecs secs shown (b, w)) {t : Ticker}
    (hphase : b.phase = .waiting t) (hdue : t.due ≤ w.schedule.rung) :
    TimedAt uptimeSecs secs shown
      (w.runBeat b (t.fire w.schedule.now) (beat b.heartbeat.record)) := by
  have ht : b.phase.ticker? = some t := congrArg Heartbeat.Phase.ticker? hphase
  obtain ⟨hperiod, -⟩ := h.beater.ticker t ht
  have hlater : (t.fire w.schedule.now).due ≤ w.schedule.now + 1000 * secs :=
    hperiod ▸ Ticker.due_fire_le (hdue.trans h.world.rung)
  exact timedAt_runBeat h ht (u := t.fire w.schedule.now) hperiod ⟨_, h.world.now, hlater⟩ _

lemma timedAt_wakeBeater (fuel : Nat) (h : TimedAt uptimeSecs secs shown (b, w)) :
    TimedAt uptimeSecs secs shown (wakeBeater fuel b w) := by
  refine wakeBeater_keeps_waiting (fun b w t hphase hdue h => timedAt_beat h hphase hdue)
    (fun b w t hphase h => ?_) fuel h
  have ht : b.phase.ticker? = some t := congrArg Heartbeat.Phase.ticker? hphase
  exact ⟨h.beater.goOn ht rfl nofun, h.world.goOn rfl ⟨rfl, rfl⟩ h.world.script h.world.beaters⟩

lemma timedAt_beatFirst (h : TimedAt uptimeSecs secs shown (b, w)) :
    TimedAt uptimeSecs secs shown (w.beatFirst b) :=
  beatFirst_keeps (fun _ => timedAt_beat h) h

lemma timedAt_beginBeater (h : TimedAt uptimeSecs secs shown (b, w)) :
    TimedAt uptimeSecs secs shown (w.beginBeater b) := by
  have hbeater : b.Timed uptimeSecs secs shown := h.beater
  have hworld : w.Timed uptimeSecs secs shown := h.world
  have hstart : Ticker.canStart w.uptimeSecs w.schedule.now b.heartbeat.period = true ↔
      uptimeSecs + w.schedule.now / 1000 + secs ≤ Ticker.lastSecond := by
    rw [hbeater.period, hworld.uptime]
    exact Ticker.canStart_seconds_iff uptimeSecs w.schedule.now hworld.interval
  refine ⟨⟨hbeater.period, .inr ⟨w.schedule.now, hworld.now, ?_⟩, fun t ht => ?_⟩,
    hworld.goOn rfl ⟨rfl, rfl⟩ hworld.script hworld.beaters⟩
  · simp only [beginBeater, Heartbeat.start]
    split
    · next hcan => exact iff_of_false Bool.false_ne_true (Nat.not_lt.mpr (hstart.mp hcan))
    · next hcan => exact iff_of_true rfl (Nat.lt_of_not_le fun hle => hcan (hstart.mpr hle))
  · simp only [beginBeater, Heartbeat.start] at ht
    split at ht
    · obtain rfl := Option.some.inj ht
      exact ⟨hbeater.period, _, hworld.now, (congrArg (w.schedule.now + ·) hbeater.period).le⟩
    · cases ht

lemma timedAt_advanceBeater (h : TimedAt uptimeSecs secs shown (b, w)) :
    TimedAt uptimeSecs secs shown (w.advanceBeater b) := by
  rw [advanceBeater]
  split
  · exact timedAt_wakeBeater _ (timedAt_beginBeater h)
  · exact timedAt_wakeBeater _ h

lemma timedAt_answerBeat (h : TimedAt uptimeSecs secs shown (b, w))
    (reply : (q : Request) → q.Result) :
    TimedAt uptimeSecs secs shown (answerBeat reply b w) := by
  rw [answerBeat]
  split
  · next t q next hphase =>
    have ht : b.phase.ticker? = some t := congrArg Heartbeat.Phase.ticker? hphase
    obtain ⟨hperiod, hdue⟩ := h.beater.ticker t ht
    exact timedAt_wakeBeater _ (timedAt_runBeat h ht hperiod hdue _)
  · exact h

lemma sameTime_arrange (i : Nat) (b : Beater) (s : Schedule) : s.SameTime (arrange i b s) := by
  rw [arrange]
  split
  · exact Schedule.sameTime_setAlarm _ _ s
  · exact ⟨rfl, rfl⟩
  · exact ⟨rfl, rfl⟩
  · exact ⟨rfl, rfl⟩
  · exact Schedule.sameTime_wake .loop (s.cancel _)

lemma Timed.withBeater (h : w.Timed uptimeSecs secs shown) (i : Nat)
    {f : Beater → World → Beater × World}
    (hf : ∀ b, TimedAt uptimeSecs secs shown (b, w) → TimedAt uptimeSecs secs shown (f b w)) :
    (w.withBeater i f).Timed uptimeSecs secs shown := by
  rw [World.withBeater]
  cases hb : w.beaters[i]? with
  | none => exact h
  | some b =>
    obtain ⟨hbeater, hworld⟩ := hf b ⟨h.beaters b (List.mem_of_getElem? hb), h⟩
    refine hworld.goOn rfl (sameTime_arrange i _ _) hworld.script fun b' hb' => ?_
    rcases List.mem_or_eq_of_mem_set hb' with hb' | rfl
    · exact hworld.beaters b' hb'
    · exact hbeater

lemma Timed.spawn (h : w.Timed uptimeSecs secs shown) {heartbeat : Heartbeat}
    (hperiod : heartbeat.period = 1000 * secs) (owner : Owner) (scope : Option Scope)
    (stopping : Bool) : (w.spawn heartbeat owner scope stopping).Timed uptimeSecs secs shown := by
  refine h.goOn rfl (Schedule.sameTime_wake _ _) h.script fun b hb => ?_
  rcases List.mem_append.mp hb with hb | hb
  · exact h.beaters b hb
  · obtain rfl := List.mem_singleton.mp hb
    exact ⟨hperiod, .inl rfl, nofun⟩

lemma Timed.stop (h : w.Timed uptimeSecs secs shown) (owner : Owner) :
    (w.stop owner).Timed uptimeSecs secs shown := by
  refine h.goOn rfl (Schedule.sameTime_wakeAll id _ _) h.script fun b' hb' => ?_
  obtain ⟨b, hb, rfl⟩ := List.mem_map.mp hb'
  have hbeater := h.beaters b hb
  split
  · exact ⟨hbeater.period, hbeater.begun, hbeater.ticker⟩
  · exact hbeater

end World

end Simulation

end DeviceFleet
