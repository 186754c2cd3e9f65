import DeviceFleet.Lifecycle.Supervisor
import DeviceFleet.Proofs.Agent.Assurance

/-! What is logged inside a scope, by a supervisor and by the heartbeats that have it. -/

namespace DeviceFleet

variable {scope : Scope} {prior : List LogRecord}

namespace Telemetry

variable {t : Telemetry}

/-- All records since the prior ones are inside a scope. -/
def Tagged (scope : Scope) (prior : List LogRecord) (t : Telemetry) : Prop :=
  ∃ es : List Event, t.records = prior ++ es.map (LogRecord.mk · (some scope))

lemma records_log (scope : Option Scope) (e : Event) (t : Telemetry) :
    (t.log scope e).records = t.records ++ [⟨e, scope⟩] := List.reverse_cons

lemma Tagged.log (h : t.Tagged scope prior) (e : Event) :
    (t.log (some scope) e).Tagged scope prior := by
  obtain ⟨es, hes⟩ := h
  refine ⟨es ++ [e], ?_⟩
  rw [records_log, hes, List.map_append, List.append_assoc]
  rfl

lemma Tagged.count (h : t.Tagged scope prior) (c : Counter) : (t.count c).Tagged scope prior := h

lemma Tagged.observe (h : t.Tagged scope prior) (q : Request) (r : q.Result) (devices : Int) :
    (t.observe (some scope) q r devices).Tagged scope prior := by
  have hmetrics : ({ t with metrics := t.metrics.observe q r devices } : Telemetry).Tagged scope
      prior := h
  rw [Telemetry.observe]
  split
  · exact hmetrics.log _
  · exact hmetrics

lemma records_observe_of_read {q : Request} (hq : q.IsRead) (inside : Option Scope) (r : q.Result)
    (devices : Int) : (t.observe inside q r devices).records = t.records := by
  have hsilent : storeEvent q r = none := by
    cases q with
    | get | list => cases r <;> rfl
    | create | update | delete => simp [Request.IsRead, Request.operation] at hq
  rw [Telemetry.observe, hsilent]
  rfl

lemma Tagged.report (h : t.Tagged scope prior) (tracker : Tracker) (next : Lifecycle) :
    (tracker.report (some scope) next t).Tagged scope prior := by
  rw [Tracker.report]
  split
  · exact (h.log _).count _
  · exact h.log _

lemma Tagged.logAll (h : t.Tagged scope prior) (es : List Event) :
    (Supervisor.logAll (some scope) es t).Tagged scope prior := by
  induction es generalizing t with
  | nil => exact h
  | cons e rest ih => exact ih (h.log e)

lemma Tagged.reportEnd (h : t.Tagged scope prior) (how : LoopEnd) (s : Supervisor) :
    (s.reportEnd (some scope) how t).Tagged scope prior :=
  ((h.logAll _).report _ _).logAll _

/-- Only a supervisor that has not begun reports outside every scope. -/
lemma Tagged.reaction (h : t.Tagged scope prior) {s : Supervisor} (hs : s.phase ≠ .initializing)
    (deadlineSecs : Binary64) (o : Occurrence) :
    (s.report (some scope) deadlineSecs o t).Tagged scope prior := by
  obtain ⟨phase, tracker, readyCount, stopAsked⟩ := s
  cases phase with
  | initializing => exact absurd rfl hs
  | serving =>
    cases o with
    | loopEnded how => exact (h.log _).reportEnd how _
    | terminationRequested => exact h.report tracker _
    | initialized | initializationFailed | deadlinePassed => exact h
  | unwinding =>
    cases o with
    | loopEnded how => exact (h.log _).reportEnd how _
    | deadlinePassed => exact (h.log _).report tracker _
    | initialized | initializationFailed | terminationRequested => exact h
  | returned => cases o <;> exact h

end Telemetry

namespace Simulation

namespace World

variable {w : World} {α : Type} {c : Client α}

structure Tagged (scope : Scope) (prior : List LogRecord) (w : World) : Prop where
  beaters : ∀ b ∈ w.beaters, b.scope = some scope
  telemetry : w.telemetry.Tagged scope prior

lemma records_run_of_reads (inside : Option Scope) (h : c.Calls Request.IsRead) (w : World) :
    (w.run inside c).2.telemetry.records = w.telemetry.records := by
  induction h generalizing w with
  | done a => rfl
  | @call q next hq _ ih =>
    rw [run]
    cases w.script.next q.operation with
    | mk cue script =>
      cases cue with
      | pass => exact (ih _ _).trans (Telemetry.records_observe_of_read hq inside _ _)
      | refuse kind => exact ih _ _
      | stall | crash => rfl

lemma Tagged.run (h : w.Tagged scope prior) (c : Client α) :
    (w.run (some scope) c).2.Tagged scope prior := by
  induction c generalizing w with
  | done a => exact h
  | call q next ih =>
    rw [World.run]
    cases w.script.next q.operation with
    | mk cue script =>
      cases cue with
      | pass => exact ih _ ⟨h.beaters, h.telemetry.observe q _ _⟩
      | refuse kind => exact ih _ ⟨h.beaters, h.telemetry⟩
      | stall | crash => exact ⟨h.beaters, h.telemetry⟩

lemma Tagged.read (h : w.Tagged scope prior) (inside : Option Scope)
    (hc : c.Calls Request.IsRead) : (w.run inside c).2.Tagged scope prior := by
  refine ⟨beaters_run inside c w ▸ h.beaters, ?_⟩
  rw [Telemetry.Tagged, records_run_of_reads inside hc]
  exact h.telemetry

lemma Tagged.log (h : w.Tagged scope prior) (e : Event) :
    (w.log (some scope) e).Tagged scope prior := ⟨h.beaters, h.telemetry.log e⟩

lemma Tagged.reportBeat (h : w.Tagged scope prior) (r : Record) (e : BeatEnd) :
    (w.reportBeat r (some scope) e).Tagged scope prior := by
  rw [World.reportBeat]
  cases e.event? r with
  | none => exact ⟨h.beaters, h.telemetry⟩
  | some event => exact ⟨h.beaters, h.telemetry.log event⟩

/-- A heartbeat at its turn, and the world around it. -/
structure TaggedAt (scope : Scope) (prior : List LogRecord) (x : Beater × World) : Prop where
  beater : x.1.scope = some scope
  world : x.2.Tagged scope prior

variable {b : Beater}

lemma taggedAt_runBeat (h : TaggedAt scope prior (b, w)) (ticker : Ticker)
    (c : Client BeatEnd) : TaggedAt scope prior (w.runBeat b ticker c) := by
  obtain ⟨hb, hw⟩ := h
  change b.scope = some scope at hb
  have hran := hw.run c
  rw [← hb] at hran
  rw [runBeat]
  generalize w.run b.scope c = ran at hran
  obtain ⟨progress, w'⟩ := ran
  cases progress with
  | finished e => exact ⟨hb, hb ▸ hran.reportBeat b.heartbeat.record e⟩
  | stalled | crashed => exact ⟨hb, hran⟩

lemma TaggedAt.log (h : TaggedAt scope prior (b, w)) (e : Event) :
    (w.log b.scope e).Tagged scope prior := by
  have hb : b.scope = some scope := h.beater
  exact hb ▸ h.world.log e

lemma taggedAt_advanceBeater (h : TaggedAt scope prior (b, w)) :
    TaggedAt scope prior (w.advanceBeater b) := by
  refine advanceBeater_keeps (fun b w hb => ?_) (fun b w ticker hb => ?_) (fun b w hb => ?_) h
  · exact ⟨hb.beater, hb.log _⟩
  · exact taggedAt_runBeat hb ticker _
  · exact ⟨hb.beater, hb.log _⟩

lemma TaggedAt.settleBeater {x : Beater × World} (h : TaggedAt scope prior x) (i : Nat) :
    (settleBeater i x).Tagged scope prior := by
  refine ⟨fun b hb => ?_, h.world.telemetry⟩
  rcases List.mem_or_eq_of_mem_set hb with hb | rfl
  · exact h.world.beaters b hb
  · exact h.beater

lemma Tagged.withBeater (h : w.Tagged scope prior) (i : Nat)
    {f : Beater → World → Beater × World}
    (hf : ∀ b, TaggedAt scope prior (b, w) → TaggedAt scope prior (f b w)) :
    (w.withBeater i f).Tagged scope prior := by
  rw [World.withBeater]
  cases hb : w.beaters[i]? with
  | none => exact h
  | some b => exact (hf b ⟨h.beaters b (List.mem_of_getElem? hb), h⟩).settleBeater i

lemma taggedAt_answerBeat (h : TaggedAt scope prior (b, w)) (reply : (q : Request) → q.Result) :
    TaggedAt scope prior (answerBeat reply b w) := by
  rw [answerBeat]
  split
  · refine wakeBeater_keeps (fun b w ticker hb => ?_) (fun b w hb => ?_) beatsAllowed
      (taggedAt_runBeat h _ _)
    · exact taggedAt_runBeat hb ticker _
    · exact ⟨hb.beater, hb.log _⟩
  · exact h

lemma taggedAt_beatFirst (h : TaggedAt scope prior (b, w)) :
    TaggedAt scope prior (w.beatFirst b) :=
  beatFirst_keeps (fun _ _ _ => taggedAt_runBeat h _ _) h

lemma Tagged.spawn (h : w.Tagged scope prior) (beat : Heartbeat) (owner : Owner)
    (stopping : Bool) : (w.spawn beat owner (some scope) stopping).Tagged scope prior := by
  refine ⟨fun b hb => ?_, h.telemetry⟩
  rcases List.mem_append.mp hb with hb | hb
  · exact h.beaters b hb
  · rw [List.mem_singleton.mp hb]

lemma Tagged.stop (h : w.Tagged scope prior) (owner : Owner) :
    (w.stop owner).Tagged scope prior := by
  refine ⟨fun b hb => ?_, h.telemetry⟩
  obtain ⟨b', hb', rfl⟩ := List.mem_map.mp hb
  split <;> exact h.beaters b' hb'

end World

end Simulation

end DeviceFleet
