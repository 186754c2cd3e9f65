import DeviceFleet.Proofs.Agent.Aftermath

/-! The loop of a heartbeat in time: how its beats follow one another while its store is slow, its
alarms are heard late and it is told to stop. -/

namespace DeviceFleet

open Heartbeat

namespace Heartbeat.Phase

def isBeating : Phase → Bool
  | .beating .. => true
  | _ => false

def ticker? : Phase → Option Ticker
  | .waiting t => some t
  | .beating t _ => some t
  | _ => none

end Heartbeat.Phase

/-- The loop of a heartbeat, with the instants at which its beats began and ended. -/
structure Pulse where
  heartbeat : Heartbeat
  phase : Phase
  now : Nat
  stopping : Bool
  began : List Nat
  ended : List Nat

namespace Pulse

/-- The loop has its turn, and has heard of the alarms up to a while ago; if it is told to stop and its
ticker has gone off, it is free to beat first. The store answers a call in any way. -/
inductive Happening
  | look (late : Nat) (beatFirst : Bool)
  | answer (reply : (q : Request) → q.Result)
  | crash
  | stop
  | tick

def begin (h : Heartbeat) (uptimeSecs start : Nat) : Pulse :=
  ⟨h, h.start uptimeSecs start, start, false, [], []⟩

def enter (phase : Phase) (p : Pulse) : Pulse where
  heartbeat := p.heartbeat
  phase := phase
  now := p.now
  stopping := p.stopping
  began := if !p.phase.isBeating && phase.isBeating then p.began ++ [p.now] else p.began
  ended := if p.phase.isBeating && !phase.isBeating then p.ended ++ [p.now] else p.ended

/-- Whether the loop takes up that it was told to stop. -/
def heeds (rung : Nat) (beatFirst : Bool) (p : Pulse) : Bool :=
  p.stopping && !(beatFirst && p.phase.due?.any (· ≤ rung))

def look (late : Nat) (beatFirst : Bool) (p : Pulse) : Pulse :=
  let rung := p.now - late
  p.enter (p.heartbeat.wake (p.heeds rung beatFirst) rung p.now p.phase)

def step (p : Pulse) : Happening → Pulse
  | .look late beatFirst => p.look late beatFirst
  | .answer reply => p.enter (p.phase.answered reply)
  | .crash => p.enter .crashed
  | .stop => { p with stopping := true }
  | .tick => { p with now := p.now + 1 }

def run (p : Pulse) (es : List Happening) : Pulse := es.foldl step p

variable {p : Pulse} {start : Nat}

lemma run_append (p : Pulse) (earlier later : List Happening) :
    p.run (earlier ++ later) = (p.run earlier).run later := List.foldl_append

/-- All that can come of what happens to a loop. -/
inductive Stepped (p : Pulse) : Happening → Pulse → Prop
  | rested {late : Nat} {beatFirst : Bool} : Stepped p (.look late beatFirst) p
  | heeded {late : Nat} {beatFirst : Bool} {t : Ticker} : p.phase = .waiting t →
      p.stopping = true → Stepped p (.look late beatFirst) { p with phase := .ended }
  | beat {late : Nat} {beatFirst : Bool} {t : Ticker} : p.phase = .waiting t → t.due ≤ p.now →
      Stepped p (.look late beatFirst) { p with
        phase := .beating (t.fire p.now) (DeviceFleet.beat p.heartbeat.record)
        began := p.began ++ [p.now] }
  | unasked {reply : (q : Request) → q.Result} : Stepped p (.answer reply) p
  | called {reply : (q : Request) → q.Result} {t : Ticker} {c c' : Client BeatEnd} :
      p.phase = .beating t c → Stepped p (.answer reply) { p with phase := .beating t c' }
  | done {reply : (q : Request) → q.Result} {t : Ticker} {c : Client BeatEnd} :
      p.phase = .beating t c →
      Stepped p (.answer reply) { p with phase := .waiting t, ended := p.ended ++ [p.now] }
  | crashed : Stepped p .crash { p with
      phase := .crashed
      ended := if p.phase.isBeating then p.ended ++ [p.now] else p.ended }
  | stop : Stepped p .stop { p with stopping := true }
  | tick : Stepped p .tick { p with now := p.now + 1 }

lemma stepped_look (late : Nat) (beatFirst : Bool) (p : Pulse) :
    p.Stepped (.look late beatFirst) (p.look late beatFirst) := by
  obtain ⟨h, phase, now, stopping, began, ended⟩ := p
  cases phase with
  | waiting t =>
    simp only [look, wake, heeds, Phase.due?, Option.any_some]
    by_cases hdue : t.due ≤ now - late
    · have hbeat : t.due ≤ now := hdue.trans (Nat.sub_le now late)
      by_cases hheeds : stopping = true ∧ beatFirst = false
      · obtain ⟨rfl, rfl⟩ := hheeds
        exact .heeded (t := t) rfl rfl
      · have hfree : (stopping && !(beatFirst && decide (t.due ≤ now - late))) = false := by
          cases stopping <;> cases beatFirst <;> simp_all
        rw [hfree]
        simp only [Ticker.isDue, hdue, decide_true, if_true, if_false, Bool.false_eq_true]
        exact .beat (t := t) rfl hbeat
    · cases stopping with
      | true =>
        simp only [hdue, decide_false, Bool.and_false, Bool.not_false, Bool.and_true, if_true]
        exact .heeded (t := t) rfl rfl
      | false =>
        simp only [Ticker.isDue, hdue, decide_false, Bool.false_and, if_false, Bool.false_eq_true]
        exact .rested
  | spawned | ended | crashed => exact .rested
  | beating t c => exact .rested

lemma stepped_answer (reply : (q : Request) → q.Result) (p : Pulse) :
    p.Stepped (.answer reply) (p.step (.answer reply)) := by
  obtain ⟨h, phase, now, stopping, began, ended⟩ := p
  cases phase with
  | beating t c =>
    cases c with
    | done e => exact .unasked
    | call q next =>
      simp only [step, Phase.answered]
      cases next (reply q) with
      | done e => exact .done rfl
      | call q' next' => exact .called rfl
  | spawned | waiting | ended | crashed => exact .unasked

lemma stepped_step (p : Pulse) (e : Happening) : p.Stepped e (p.step e) := by
  cases e with
  | look late beatFirst => exact stepped_look late beatFirst p
  | answer reply => exact stepped_answer reply p
  | crash =>
    have hcrash : p.step .crash = { p with
        phase := .crashed
        ended := if p.phase.isBeating then p.ended ++ [p.now] else p.ended } := by
      obtain ⟨h, phase, now, stopping, began, ended⟩ := p
      cases phase <;> rfl
    exact hcrash ▸ .crashed
  | stop => exact .stop
  | tick => exact .tick

/-- However late and slow all goes: beats come one after the other, none before its time. -/
structure Steady (start : Nat) (p : Pulse) : Prop where
  counted : p.began.length = p.ended.length + if p.phase.isBeating then 1 else 0
  spaced : ∀ k t, p.began[k]? = some t → start + (k + 1) * p.heartbeat.period ≤ t
  past : ∀ t ∈ p.began, t ≤ p.now
  ticker : ∀ t, p.phase.ticker? = some t → t.period = p.heartbeat.period ∧
    start + (p.began.length + 1) * p.heartbeat.period ≤ t.due

lemma steady_begin (h : Heartbeat) (uptimeSecs start : Nat) :
    (begin h uptimeSecs start).Steady start := by
  rw [begin, Heartbeat.start]
  split
  · refine ⟨rfl, nofun, nofun, fun t ht => ?_⟩
    obtain rfl := Option.some.inj ht
    exact ⟨rfl, by simp [Ticker.start]⟩
  · exact ⟨rfl, nofun, nofun, nofun⟩

lemma le_due_fire {t : Ticker} {now : Nat} (h : t.due ≤ now) :
    t.due + t.period ≤ (t.fire now).due := by
  rw [Ticker.fire]
  dsimp only
  split
  · exact Nat.add_le_add_right h t.period
  · exact le_rfl

lemma Steady.beat (h : p.Steady start) {t : Ticker} (hphase : p.phase = .waiting t)
    (hdue : t.due ≤ p.now) (c : Client BeatEnd) :
    Steady start
      { p with phase := .beating (t.fire p.now) c, began := p.began ++ [p.now] } := by
  obtain ⟨hcounted, hspaced, hpast, hticker⟩ := h
  rw [hphase] at hcounted hticker
  obtain ⟨hperiod, hlater⟩ := hticker t rfl
  refine ⟨?_, fun k u hu => ?_, fun u hu => ?_, fun u hu => ?_⟩
  · rw [List.length_append]
    exact congrArg (· + 1) hcounted
  · rw [List.getElem?_append] at hu
    split at hu
    · exact hspaced k u hu
    · next hk =>
      obtain ⟨hlast, rfl⟩ : k - p.began.length = 0 ∧ p.now = u := by
        simpa [List.getElem?_singleton] using hu
      obtain rfl : k = p.began.length := by omega
      exact hlater.trans hdue
  · rcases List.mem_append.mp hu with hu | hu
    · exact hpast u hu
    · exact (List.mem_singleton.mp hu).le
  · obtain rfl := Option.some.inj hu
    refine ⟨hperiod, ?_⟩
    have hnext := le_due_fire hdue
    rw [hperiod] at hnext
    have hlength : (p.began ++ [p.now]).length + 1 = p.began.length + 1 + 1 := by simp
    rw [hlength, Nat.succ_mul, ← Nat.add_assoc]
    exact (Nat.add_le_add_right hlater _).trans hnext

lemma Steady.stepped (h : p.Steady start) {e : Happening} {q : Pulse} (hq : p.Stepped e q) :
    q.Steady start := by
  obtain ⟨hcounted, hspaced, hpast, hticker⟩ := h
  cases hq with
  | rested | unasked | stop => exact ⟨hcounted, hspaced, hpast, hticker⟩
  | heeded hphase =>
    rw [hphase] at hcounted
    exact ⟨hcounted, hspaced, hpast, nofun⟩
  | beat hphase hdue => exact Steady.beat ⟨hcounted, hspaced, hpast, hticker⟩ hphase hdue _
  | called hphase =>
    rw [hphase] at hcounted hticker
    exact ⟨hcounted, hspaced, hpast, hticker⟩
  | done hphase =>
    rw [hphase] at hcounted hticker
    exact ⟨by simpa [Phase.isBeating] using hcounted, hspaced, hpast, hticker⟩
  | crashed =>
    refine ⟨?_, hspaced, hpast, nofun⟩
    rw [hcounted]
    split <;> simp [Phase.isBeating]
  | tick => exact ⟨hcounted, hspaced, fun t ht => (hpast t ht).trans (Nat.le_succ _), hticker⟩

lemma Steady.run (h : p.Steady start) (es : List Happening) : (p.run es).Steady start := by
  induction es generalizing p with
  | nil => exact h
  | cons e rest ih => exact ih (h.stepped (stepped_step p e))

lemma heartbeat_run (p : Pulse) (es : List Happening) : (p.run es).heartbeat = p.heartbeat := by
  induction es generalizing p with
  | nil => rfl
  | cons e rest ih =>
    refine (ih (p.step e)).trans ?_
    cases e <;> rfl

lemma Steady.countP_began_le (h : p.Steady start) (hperiod : 0 < p.heartbeat.period) (t : Nat) :
    p.began.countP (· ≤ start + t) ≤ t / p.heartbeat.period := by
  -- What comes after the first beats, one for each period, began too late to count.
  have hlate : (p.began.drop (t / p.heartbeat.period)).countP (· ≤ start + t) = 0 := by
    refine List.countP_eq_zero.mpr fun u hu => ?_
    obtain ⟨k, hk⟩ := List.mem_iff_getElem?.mp hu
    rw [List.getElem?_drop] at hk
    have hspaced := h.spaced _ u hk
    have hbeyond : t < (t / p.heartbeat.period + k + 1) * p.heartbeat.period := by
      rw [← Nat.div_lt_iff_lt_mul hperiod]
      omega
    simp only [decide_eq_true_eq]
    omega
  calc p.began.countP (· ≤ start + t)
      = (p.began.take (t / p.heartbeat.period)).countP (· ≤ start + t) + 0 := by
        rw [← hlate, ← List.countP_append, List.take_append_drop]
    _ ≤ (p.began.take (t / p.heartbeat.period)).length := List.countP_le_length
    _ ≤ t / p.heartbeat.period := List.length_take_le _ _

def rests (p : Pulse) : Bool :=
  match p.phase with
  | .waiting t => !p.stopping && p.now < t.due
  | .beating .. => false
  | _ => true

def Happening.isTick : Happening → Bool
  | .tick => true
  | _ => false

/-- Time passes only while there is nothing for the loop to do, and no call is waited for. -/
def isPrompt : Pulse → List Happening → Bool
  | _, [] => true
  | p, e :: rest => (!e.isTick || p.rests) && (p.step e).isPrompt rest

/-- The ticker of a loop none of whose beats was late. -/
def timely (start : Nat) (p : Pulse) : Ticker :=
  ⟨p.heartbeat.period, start + (p.began.length + 1) * p.heartbeat.period⟩

/-- A loop that is served at once and was not told to stop yet. -/
structure OnTime (start : Nat) (p : Pulse) : Prop where
  free : p.stopping = false
  phase :
    (p.phase = .waiting (p.timely start) ∧ start + p.began.length * p.heartbeat.period ≤ p.now ∧
      p.now ≤ (p.timely start).due) ∨
    ∃ c, p.phase = .beating (p.timely start) c ∧
      p.now = start + p.began.length * p.heartbeat.period

lemma onTime_begin {h : Heartbeat} {uptimeSecs start : Nat}
    (hstart : Ticker.canStart uptimeSecs start h.period = true) :
    (begin h uptimeSecs start).OnTime start := by
  refine ⟨rfl, .inl ⟨?_, ?_, ?_⟩⟩
  · simp [begin, Heartbeat.start, hstart, Ticker.start, timely]
  · simp [begin]
  · simp [begin, timely]

lemma OnTime.beat (h : p.OnTime start) {t : Ticker} (hwaiting : p.phase = .waiting t)
    (hdue : t.due ≤ p.now) (c : Client BeatEnd) :
    OnTime start
      { p with phase := .beating (t.fire p.now) c, began := p.began ++ [p.now] } := by
  obtain ⟨hfree, ⟨hwaits, _, hle⟩ | ⟨c, hbeats, _⟩⟩ := h
  · obtain rfl := Phase.waiting.inj (hwaiting.symm.trans hwaits)
    have hnow : p.now = (p.timely start).due := Nat.le_antisymm hle hdue
    refine ⟨hfree, .inr ⟨c, ?_, ?_⟩⟩
    · simp [Ticker.fire, hnow, timely, Nat.succ_mul, Nat.add_assoc]
    · simpa [timely] using hnow
  · exact absurd (hwaiting.symm.trans hbeats) nofun

lemma OnTime.stepped (h : p.OnTime start) {e : Happening} {q : Pulse} (hq : p.Stepped e q)
    (hprompt : e.isTick = true → p.rests = true) (hcrash : e ≠ .crash) (hstop : e ≠ .stop) :
    q.OnTime start := by
  cases hq with
  | rested | unasked => exact h
  | heeded _ hstopping => exact absurd (h.free.symm.trans hstopping) nofun
  | beat hwaiting hdue => exact h.beat hwaiting hdue _
  | called hbeating =>
    obtain ⟨hfree, ⟨hwaits, _⟩ | ⟨c, hbeats, hnow⟩⟩ := h
    · exact absurd (hbeating.symm.trans hwaits) nofun
    · obtain ⟨rfl, rfl⟩ := Phase.beating.inj (hbeating.symm.trans hbeats)
      exact ⟨hfree, .inr ⟨_, rfl, hnow⟩⟩
  | done hbeating =>
    obtain ⟨hfree, ⟨hwaits, _⟩ | ⟨c, hbeats, hnow⟩⟩ := h
    · exact absurd (hbeating.symm.trans hwaits) nofun
    · obtain ⟨rfl, rfl⟩ := Phase.beating.inj (hbeating.symm.trans hbeats)
      refine ⟨hfree, .inl ⟨rfl, hnow.ge, hnow.le.trans ?_⟩⟩
      exact Nat.add_le_add_left (Nat.mul_le_mul_right _ (Nat.le_succ _)) start
  | crashed => exact absurd rfl hcrash
  | stop => exact absurd rfl hstop
  | tick =>
    have hrests := hprompt rfl
    obtain ⟨hfree, ⟨hwaits, hge, _⟩ | ⟨c, hbeats, _⟩⟩ := h
    · simp only [rests, hwaits, hfree, Bool.not_false, Bool.true_and, decide_eq_true_eq] at hrests
      exact ⟨hfree, .inl ⟨hwaits, hge.trans (Nat.le_succ _), hrests⟩⟩
    · simp [rests, hbeats] at hrests

lemma isPrompt_cons {e : Happening} {rest : List Happening}
    (h : p.isPrompt (e :: rest) = true) :
    (e.isTick = true → p.rests = true) ∧ (p.step e).isPrompt rest = true := by
  rw [isPrompt, Bool.and_eq_true] at h
  refine ⟨fun htick => ?_, h.2⟩
  simpa [htick] using h.1

lemma isPrompt_append {earlier later : List Happening}
    (h : p.isPrompt (earlier ++ later) = true) :
    p.isPrompt earlier = true ∧ (p.run earlier).isPrompt later = true := by
  induction earlier generalizing p with
  | nil => exact ⟨rfl, h⟩
  | cons e rest ih =>
    rw [List.cons_append, isPrompt, Bool.and_eq_true] at h
    obtain ⟨hrest, hlater⟩ := ih h.2
    exact ⟨by rw [isPrompt, h.1, hrest]; rfl, hlater⟩

lemma OnTime.run (h : p.OnTime start) {es : List Happening} (hprompt : p.isPrompt es = true)
    (hes : ∀ e ∈ es, e ≠ .crash ∧ e ≠ .stop) : (p.run es).OnTime start := by
  induction es generalizing p with
  | nil => exact h
  | cons e rest ih =>
    obtain ⟨hfirst, hrest⟩ := isPrompt_cons hprompt
    obtain ⟨hcrash, hstop⟩ := hes e List.mem_cons_self
    exact ih (h.stepped (stepped_step p e) hfirst hcrash hstop) hrest fun f hf =>
      hes f (List.mem_cons_of_mem e hf)

lemma OnTime.began_length (h : p.OnTime start) {t : Nat} (hnow : p.now = start + t)
    (ht : ¬ p.heartbeat.period ∣ t) :
    p.began.length = t / p.heartbeat.period ∧
      ∃ u, p.phase = .waiting u ∧ p.now < u.due := by
  obtain ⟨_, ⟨hwaits, hge, hle⟩ | ⟨c, _, hbegun⟩⟩ := h
  · have hreached : p.began.length * p.heartbeat.period ≤ t := by omega
    have hdue : p.now ≠ (p.timely start).due := by
      intro heq
      refine ht ⟨p.began.length + 1, ?_⟩
      rw [Nat.mul_comm]
      exact Nat.add_left_cancel (hnow.symm.trans heq)
    have hlt : start + t < start + (p.began.length + 1) * p.heartbeat.period :=
      hnow ▸ Nat.lt_of_le_of_ne hle hdue
    refine ⟨(Nat.div_eq_of_lt_le hreached (Nat.lt_of_add_lt_add_left hlt)).symm, _, hwaits, ?_⟩
    exact Nat.lt_of_le_of_ne hle hdue
  · refine absurd ⟨p.began.length, ?_⟩ ht
    rw [Nat.mul_comm]
    exact Nat.add_left_cancel (hnow.symm.trans hbegun)

lemma crashed_run (h : p.phase = .crashed) (es : List Happening) :
    (p.run es).phase = .crashed ∧ (p.run es).began = p.began := by
  induction es generalizing p with
  | nil => exact ⟨h, rfl⟩
  | cons e rest ih =>
    have hstep : (p.step e).phase = .crashed ∧ (p.step e).began = p.began := by
      have hq := stepped_step p e
      generalize p.step e = q at hq
      cases hq with
      | rested | unasked | stop | tick => exact ⟨h, rfl⟩
      | crashed => exact ⟨rfl, rfl⟩
      | heeded hp | beat hp | called hp | done hp => exact absurd (h.symm.trans hp) nofun
    obtain ⟨hphase, hbegan⟩ := ih hstep.1
    exact ⟨hphase, hbegan.trans hstep.2⟩

/-- A loop that was told to stop between two ticks. -/
structure Stopped (n : Nat) (p : Pulse) : Prop where
  told : p.stopping = true
  began : p.began.length = n
  phase : p.phase = .ended ∨ ∃ t, p.phase = .waiting t ∧ p.now < t.due

lemma Stopped.stepped {n : Nat} (h : p.Stopped n) {e : Happening} {q : Pulse}
    (hq : p.Stepped e q) (hprompt : e.isTick = true → p.rests = true) (hcrash : e ≠ .crash) :
    q.Stopped n := by
  obtain ⟨htold, hbegan, hphase⟩ := h
  cases hq with
  | rested | unasked => exact ⟨htold, hbegan, hphase⟩
  | stop => exact ⟨rfl, hbegan, hphase⟩
  | heeded => exact ⟨htold, hbegan, .inl rfl⟩
  | beat hwaiting hdue =>
    rcases hphase with hended | ⟨t, hwaits, hlt⟩
    · exact absurd (hwaiting.symm.trans hended) nofun
    · obtain rfl := Phase.waiting.inj (hwaiting.symm.trans hwaits)
      exact absurd hdue (Nat.not_le.mpr hlt)
  | called hbeating | done hbeating =>
    rcases hphase with hended | ⟨t, hwaits, _⟩
    · exact absurd (hbeating.symm.trans hended) nofun
    · exact absurd (hbeating.symm.trans hwaits) nofun
  | crashed => exact absurd rfl hcrash
  | tick =>
    rcases hphase with hended | ⟨t, hwaits, _⟩
    · exact ⟨htold, hbegan, .inl hended⟩
    · have hrests := hprompt rfl
      simp [rests, hwaits, htold] at hrests

lemma Stopped.run {n : Nat} (h : p.Stopped n) {es : List Happening}
    (hprompt : p.isPrompt es = true) (hes : ∀ e ∈ es, e ≠ .crash) : (p.run es).Stopped n := by
  induction es generalizing p with
  | nil => exact h
  | cons e rest ih =>
    obtain ⟨hfirst, hrest⟩ := isPrompt_cons hprompt
    exact ih (h.stepped (stepped_step p e) hfirst (hes e List.mem_cons_self)) hrest fun f hf =>
      hes f (List.mem_cons_of_mem e hf)

/-- A loop whose ticker cannot be started has a period that ends after all times that its clock can
show. -/
lemma div_period_of_crashed {h : Heartbeat} {uptimeSecs start t : Nat}
    (hstart : Ticker.canStart uptimeSecs start h.period = false)
    (hclock : uptimeSecs + (start + t) / 1000 ≤ Ticker.lastSecond) : t / h.period = 0 := by
  by_cases hzero : h.period = 0
  · rw [hzero, Nat.div_zero]
  · refine Nat.div_eq_of_lt (Nat.lt_of_not_le fun hle => ?_)
    have hbeyond : Ticker.lastSecond < uptimeSecs + (start + h.period) / 1000 := by
      simpa [Ticker.canStart, hzero] using hstart
    have hshown : (start + h.period) / 1000 ≤ (start + t) / 1000 :=
      Nat.div_le_div_right (Nat.add_le_add_left hle start)
    omega

lemma beats_until_stop {h : Heartbeat} {uptimeSecs start t : Nat} {earlier later : List Happening}
    (hprompt : (begin h uptimeSecs start).isPrompt (earlier ++ .stop :: later) = true)
    (hearlier : ∀ e ∈ earlier, e ≠ .crash ∧ e ≠ .stop) (hlater : ∀ e ∈ later, e ≠ .crash)
    (hnow : ((begin h uptimeSecs start).run earlier).now = start + t) (ht : ¬ h.period ∣ t)
    (hclock : uptimeSecs + (start + t) / 1000 ≤ Ticker.lastSecond) :
    let p := (begin h uptimeSecs start).run (earlier ++ .stop :: later)
    p.began.length = t / h.period ∧ p.ended.length = t / h.period := by
  intro p
  have hcounted := ((steady_begin h uptimeSecs start).run (earlier ++ .stop :: later)).counted
  change p.began.length = p.ended.length + _ at hcounted
  -- No beat is under way in the end, so as many have ended as have begun.
  have hfinal : p.began.length = t / h.period ∧ p.phase.isBeating = false := by
    cases hstart : Ticker.canStart uptimeSecs start h.period with
    | false =>
      have hcrashed : (begin h uptimeSecs start).phase = .crashed := by
        simp [begin, Heartbeat.start, hstart]
      obtain ⟨hphase, hnone⟩ := crashed_run hcrashed (earlier ++ .stop :: later)
      change p.phase = .crashed at hphase
      change p.began = [] at hnone
      rw [div_period_of_crashed hstart hclock, hnone, hphase]
      exact ⟨rfl, rfl⟩
    | true =>
      obtain ⟨hbefore, hafter⟩ := isPrompt_append hprompt
      have honTime := (onTime_begin hstart).run hbefore hearlier
      have hperiod : ((begin h uptimeSecs start).run earlier).heartbeat.period = h.period :=
        congrArg Heartbeat.period (heartbeat_run _ earlier)
      rw [← hperiod] at ht ⊢
      obtain ⟨hbegan, u, hwaits, hlt⟩ := honTime.began_length hnow ht
      have htold : Stopped (t / ((begin h uptimeSecs start).run earlier).heartbeat.period)
          (((begin h uptimeSecs start).run earlier).step .stop) :=
        ⟨rfl, hbegan, .inr ⟨u, hwaits, hlt⟩⟩
      obtain ⟨_, hlast, hphase⟩ := htold.run (isPrompt_cons hafter).2 hlater
      have hrun : p = (((begin h uptimeSecs start).run earlier).step .stop).run later :=
        run_append _ earlier (.stop :: later)
      rw [hrun]
      refine ⟨hlast, ?_⟩
      rcases hphase with hended | ⟨v, hwaits, _⟩
      · rw [hended]
        rfl
      · rw [hwaits]
        rfl
  obtain ⟨hbegan, hidle⟩ := hfinal
  rw [hidle] at hcounted
  exact ⟨hbegan, hcounted.symm.trans hbegan⟩

end Pulse

end DeviceFleet
