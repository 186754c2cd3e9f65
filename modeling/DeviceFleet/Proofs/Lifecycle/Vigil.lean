import DeviceFleet.Proofs.Lifecycle.Course
import DeviceFleet.Simulation.Run

/-! A watch in time: how its supervisor goes on while its loop ends, signals come and time passes. -/

namespace DeviceFleet

def LoopEnd.failure? : LoopEnd → Option Failure
  | .completed => none
  | .failed e => some (.runLoop e)
  | .crashed => some .runLoopCrashed

def LoopEnd.told (signaled : Bool) (how : LoopEnd) : RunResult :=
  match how.failure? with
  | none => .ok ⟨signaled, false⟩
  | some why => .error why

def LoopEnd.lastState (how : LoopEnd) : Lifecycle :=
  if how.failure?.isNone then .stopped else .failed

namespace Supervisor

lemma resultOf_eq_told (signaled : Bool) (how : LoopEnd) :
    resultOf signaled how = how.told signaled := by
  cases how <;> rfl

lemma stateOf_told (signaled : Bool) (how : LoopEnd) :
    stateOf (how.told signaled) = how.lastState := by
  cases how <;> rfl

def Phase.state : Phase → Lifecycle
  | .initializing => .initializing
  | .serving => .running
  | .unwinding => .shuttingDown
  | .returned r => stateOf r

lemma current_react {s : Supervisor} (h : s.tracker.current = s.phase.state) (o : Occurrence) :
    (s.react o).tracker.current = (s.react o).phase.state := by
  obtain ⟨phase, ⟨current, version⟩, readyCount, stopAsked⟩ := s
  obtain rfl : current = phase.state := h
  cases phase with
  | initializing | serving | unwinding =>
    cases o with
    | loopEnded how => cases how <;> rfl
    | _ => rfl
  | returned r => cases o <;> rfl

lemma phase_react (s : Supervisor) (o : Occurrence) :
    (s.react o).phase = match s.phase, o with
      | .initializing, .initialized => .serving
      | .initializing, .initializationFailed why => .returned (.error why)
      | .serving, .loopEnded how => .returned (how.told false)
      | .serving, .terminationRequested => .unwinding
      | .unwinding, .loopEnded how => .returned (how.told true)
      | .unwinding, .deadlinePassed => .returned (.ok ⟨true, true⟩)
      | phase, _ => phase := by
  simp only [← resultOf_eq_told]
  obtain ⟨phase, tracker, readyCount, stopAsked⟩ := s
  cases phase <;> cases o <;> rfl

end Supervisor

inductive Happening
  | loopEnds (how : LoopEnd)
  | signal
  | look (p : Preference)
  | tick

/-- A watch in time, with what has become ready: the end of its loop and the signals in their order,
each with its instant. `returned` is when the supervisor returned. -/
structure Vigil where
  now : Nat
  watch : Watch
  ended : Option (Nat × LoopEnd)
  signals : List Nat
  returned : Option Nat

namespace Vigil

def begin (start grace : Nat) : Vigil := ⟨start, { Watch.initial with grace }, none, [], none⟩

def phase (v : Vigil) : Supervisor.Phase := v.watch.supervisor.phase

/-- Before it serves a supervisor is ready to begin. -/
def ready? (p : Preference) (v : Vigil) : Option Occurrence :=
  match v.phase with
  | .initializing => some .initialized
  | _ => v.watch.ready? p (v.ended.map Prod.snd) (!v.signals.isEmpty) v.now

def takeUp (v : Vigil) (o : Occurrence) : Vigil :=
  let watch := v.watch.takeUp v.now o
  { v with watch, returned := v.returned.or (watch.supervisor.result?.map fun _ => v.now) }

def look (p : Preference) (v : Vigil) : Vigil := ((v.ready? p).map v.takeUp).getD v

/-- A loop ends once at most, and not before it is spawned. -/
def loopEnds (how : LoopEnd) (v : Vigil) : Vigil :=
  match v.phase, v.ended with
  | .initializing, _ => v
  | _, none => { v with ended := some (v.now, how) }
  | _, some _ => v

/-- Time passes only while there is nothing to take up. -/
def tick (v : Vigil) : Vigil := if (v.ready? .ending).isNone then { v with now := v.now + 1 } else v

def step (v : Vigil) : Happening → Vigil
  | .loopEnds how => v.loopEnds how
  | .signal => { v with signals := v.signals ++ [v.now] }
  | .look p => v.look p
  | .tick => v.tick

def run (v : Vigil) (hs : List Happening) : Vigil := hs.foldl step v

def answer? (v : Vigil) : Option (Nat × RunResult) :=
  v.returned.bind fun t => v.watch.supervisor.result?.map fun r => (t, r)

variable {v : Vigil} {phase : Supervisor.Phase}

def Idle (v : Vigil) : Prop := ∀ q, v.ready? q = none

lemma look_of_ready {p : Preference} {o : Occurrence} (h : v.ready? p = some o) :
    v.look p = v.takeUp o := by
  rw [look, h]
  rfl

lemma look_of_idle (h : v.Idle) (p : Preference) : v.look p = v := by
  rw [look, h p]
  rfl

lemma ready?_of_serving (h : v.phase = .serving) (p : Preference) :
    v.ready? p = match v.ended with
      | none => if !v.signals.isEmpty then some .terminationRequested else none
      | some e =>
        if !v.signals.isEmpty && p = .signal then some .terminationRequested
        else some (.loopEnded e.2) := by
  have hphase : v.watch.supervisor.phase = .serving := h
  rw [ready?, h]
  cases v.ended <;> simp [Watch.ready?, hphase]

lemma ready?_of_unwinding (h : v.phase = .unwinding) (p : Preference) :
    v.ready? p = match v.ended with
      | none => if v.watch.deadline.any (· ≤ v.now) then some .deadlinePassed else none
      | some e => some (.loopEnded e.2) := by
  have hphase : v.watch.supervisor.phase = .unwinding := h
  rw [ready?, h]
  cases v.ended <;> simp [Watch.ready?, hphase]

lemma idle_of_returned {r : RunResult} (h : v.phase = .returned r) : v.Idle := by
  have hphase : v.watch.supervisor.phase = .returned r := h
  intro p
  simp [ready?, Watch.ready?, h, hphase]

lemma idle_of_ready? {p : Preference} (h : v.ready? p = none) : v.Idle := by
  intro q
  cases hphase : v.phase with
  | initializing => simp [ready?, hphase] at h
  | serving =>
    rw [ready?_of_serving hphase] at h ⊢
    cases hend : v.ended with
    | none => rwa [hend] at h
    | some e =>
      rw [hend] at h
      by_cases hs : (!v.signals.isEmpty && p = .signal) = true <;> simp [hs] at h
  | unwinding =>
    rw [ready?_of_unwinding hphase] at h ⊢
    exact h
  | returned r => exact idle_of_returned hphase q

lemma Idle.phase_ne_initializing (h : v.Idle) : v.phase ≠ .initializing := by
  intro hphase
  have hready : v.ready? .ending = some .initialized := by rw [ready?, hphase]
  exact Option.some_ne_none _ (hready.symm.trans (h .ending))

lemma Idle.of_serving (h : v.Idle) (hphase : v.phase = .serving) :
    v.ended = none ∧ v.signals = [] := by
  have hready := h .ending
  rw [ready?_of_serving hphase] at hready
  cases hend : v.ended with
  | none => simpa [hend] using hready
  | some e => simp [hend] at hready

lemma Idle.of_unwinding (h : v.Idle) (hphase : v.phase = .unwinding) :
    v.ended = none ∧ ∀ d ∈ v.watch.deadline, v.now < d := by
  have hready := h .ending
  rw [ready?_of_unwinding hphase] at hready
  cases hend : v.ended with
  | none => simpa [hend, Option.any_eq_false] using hready
  | some e => simp [hend] at hready

lemma phase_takeUp (h : v.phase = phase) (o : Occurrence) {next : Supervisor.Phase}
    (hnext : ∀ s : Supervisor, s.phase = phase → (s.react o).phase = next) :
    (v.takeUp o).phase = next := hnext v.watch.supervisor h

lemma returned_takeUp (v : Vigil) (o : Occurrence) :
    (v.takeUp o).returned = v.returned.or (match (v.takeUp o).phase with
      | .returned _ => some v.now
      | _ => none) := by
  have hresult : (v.takeUp o).returned =
      v.returned.or ((v.takeUp o).watch.supervisor.result?.map fun _ => v.now) := rfl
  rw [hresult, Supervisor.result?, phase]
  cases (v.takeUp o).watch.supervisor.phase <;> rfl

/-- All that a look can do. -/
inductive Looked (v : Vigil) : Vigil → Prop
  | rested : v.Idle → Looked v v
  | began : v.phase = .initializing → (v.takeUp .initialized).phase = .serving →
      Looked v (v.takeUp .initialized)
  | signaled : v.phase = .serving → v.signals ≠ [] →
      (v.takeUp .terminationRequested).phase = .unwinding →
      Looked v (v.takeUp .terminationRequested)
  | ended {t : Nat} {how : LoopEnd} : v.phase = .serving → v.ended = some (t, how) →
      (v.takeUp (.loopEnded how)).phase = .returned (how.told false) →
      Looked v (v.takeUp (.loopEnded how))
  | unwound {t : Nat} {how : LoopEnd} : v.phase = .unwinding → v.ended = some (t, how) →
      (v.takeUp (.loopEnded how)).phase = .returned (how.told true) →
      Looked v (v.takeUp (.loopEnded how))
  | cutOff {d : Nat} : v.phase = .unwinding → v.ended = none → v.watch.deadline = some d →
      d ≤ v.now → (v.takeUp .deadlinePassed).phase = .returned (.ok ⟨true, true⟩) →
      Looked v (v.takeUp .deadlinePassed)

lemma looked_of_serving (h : v.phase = .serving) (p : Preference) : v.Looked (v.look p) := by
  have hready := ready?_of_serving h p
  have hsignal (hs : v.signals ≠ []) : v.Looked (v.takeUp .terminationRequested) :=
    .signaled h hs (phase_takeUp h _ fun s hs => by rw [Supervisor.phase_react, hs])
  cases hend : v.ended with
  | none =>
    by_cases hs : v.signals = []
    · have hidle : v.Idle := idle_of_ready? (p := p) (by simp [hready, hend, hs])
      rw [look_of_idle hidle]
      exact .rested hidle
    · rw [look_of_ready (o := .terminationRequested) (by simp [hready, hend, hs])]
      exact hsignal hs
  | some e =>
    by_cases hs : v.signals ≠ [] ∧ p = .signal
    · obtain ⟨hs, rfl⟩ := hs
      rw [look_of_ready (o := .terminationRequested) (by simp [hready, hend, hs])]
      exact hsignal hs
    · rw [look_of_ready (o := .loopEnded e.2) (by simpa [hready, hend] using hs)]
      exact .ended h hend (phase_takeUp h _ fun s hs => by rw [Supervisor.phase_react, hs])

lemma looked_of_unwinding (h : v.phase = .unwinding) (p : Preference) : v.Looked (v.look p) := by
  have hready := ready?_of_unwinding h p
  cases hend : v.ended with
  | some e =>
    rw [look_of_ready (o := .loopEnded e.2) (by rw [hready, hend])]
    exact .unwound h hend (phase_takeUp h _ fun s hs => by rw [Supervisor.phase_react, hs])
  | none =>
    by_cases hpassed : ∃ d ∈ v.watch.deadline, d ≤ v.now
    · obtain ⟨d, hd, hle⟩ := hpassed
      rw [look_of_ready (o := .deadlinePassed) (by simp [hready, hend, Option.mem_def.mp hd, hle])]
      exact .cutOff h hend hd hle
        (phase_takeUp h _ fun s hs => by rw [Supervisor.phase_react, hs])
    · have hidle : v.Idle := idle_of_ready? (p := p) (by
        simpa [hready, hend, Option.any_eq_false] using hpassed)
      rw [look_of_idle hidle]
      exact .rested hidle

lemma looked (p : Preference) (v : Vigil) : v.Looked (v.look p) := by
  cases h : v.phase with
  | initializing =>
    rw [look_of_ready (o := .initialized) (by rw [ready?, h])]
    exact .began h (phase_takeUp h _ fun s hs => by rw [Supervisor.phase_react, hs])
  | serving => exact looked_of_serving h p
  | unwinding => exact looked_of_unwinding h p
  | returned r =>
    rw [look_of_idle (idle_of_returned h)]
    exact .rested (idle_of_returned h)

lemma run_append (v : Vigil) (earlier later : List Happening) :
    v.run (earlier ++ later) = (v.run earlier).run later := List.foldl_append

lemma grace_step (v : Vigil) (happening : Happening) :
    (v.step happening).watch.grace = v.watch.grace := by
  cases happening with
  | loopEnds how =>
    simp only [step, loopEnds]
    split <;> rfl
  | signal => rfl
  | look p =>
    change (v.look p).watch.grace = v.watch.grace
    rw [look]
    cases v.ready? p <;> rfl
  | tick =>
    simp only [step, tick]
    split <;> rfl

lemma grace_run (v : Vigil) (happenings : List Happening) :
    (v.run happenings).watch.grace = v.watch.grace := by
  induction happenings generalizing v with
  | nil => rfl
  | cons happening rest ih => exact (ih (v.step happening)).trans (grace_step v happening)

/-- How many more looks there may be something to take up for. -/
def looksLeft (v : Vigil) : Nat :=
  match v.phase with
  | .initializing => 3
  | .serving => 2
  | .unwinding => 1
  | .returned _ => 0

lemma looksLeft_look_lt (p : Preference) (v : Vigil) :
    v.Idle ∨ (v.look p).looksLeft < v.looksLeft := by
  have hlooked := looked p v
  generalize v.look p = w at hlooked
  cases hlooked with
  | rested hidle => exact Or.inl hidle
  | began h hnext | signaled h _ hnext | ended h _ hnext | unwound h _ hnext
  | cutOff h _ _ _ hnext =>
    right
    rw [looksLeft, looksLeft, h, hnext]
    simp

lemma run_looks_of_idle (h : v.Idle) (ps : List Preference) : v.run (ps.map .look) = v := by
  induction ps with
  | nil => rfl
  | cons p rest ih =>
    have hlook : v.step (.look p) = v := look_of_idle h p
    rw [List.map_cons, run, List.foldl_cons, hlook]
    exact ih

lemma idle_run_looks (ps : List Preference) (h : v.looksLeft ≤ ps.length) :
    (v.run (ps.map .look)).Idle := by
  induction ps generalizing v with
  | nil =>
    cases hphase : v.phase with
    | returned r => exact idle_of_returned hphase
    | _ => simp [looksLeft, hphase] at h
  | cons p rest ih =>
    rcases looksLeft_look_lt p v with hidle | hlt
    · rwa [run_looks_of_idle hidle]
    · exact ih (v := v.look p) (by simp only [List.length_cons] at h; omega)

lemma looksLeft_le (v : Vigil) : v.looksLeft ≤ 3 := by
  rw [looksLeft]
  split <;> decide

lemma answer?_of_phase {t : Nat} {r : RunResult} (hphase : v.phase = .returned r)
    (hret : v.returned = some t) : v.answer? = some (t, r) := by
  have hresult : v.watch.supervisor.result? = some r := Supervisor.result?_eq_some_iff.mpr hphase
  simp [answer?, hret, hresult]

lemma phase_of_answer? {t : Nat} {r : RunResult} (h : v.answer? = some (t, r)) :
    v.phase = .returned r := by
  obtain ⟨_, _, hmap⟩ := Option.bind_eq_some_iff.mp h
  obtain ⟨r', hresult, hpair⟩ := Option.map_eq_some_iff.mp hmap
  obtain rfl : r' = r := congrArg Prod.snd hpair
  exact Supervisor.result?_eq_some_iff.mp hresult

lemma step_of_signaled (hv : v.signals ≠ []) {signals : List Nat} (hs : signals ≠ [])
    (happening : Happening) :
    ∃ more, ({ v with signals } : Vigil).step happening =
        { v.step happening with signals := more } ∧
      more ≠ [] ∧ (v.step happening).signals ≠ [] := by
  have hempty : signals.isEmpty = v.signals.isEmpty := by
    rw [List.isEmpty_eq_false_iff.mpr hs, List.isEmpty_eq_false_iff.mpr hv]
  have hready (p : Preference) : ({ v with signals } : Vigil).ready? p = v.ready? p := by
    simp only [ready?, phase, hempty]
  cases happening with
  | loopEnds how =>
    have hcomm : ({ v with signals } : Vigil).loopEnds how = { v.loopEnds how with signals } := by
      simp only [loopEnds, phase]
      split <;> rfl
    have hkept : (v.loopEnds how).signals = v.signals := by
      rw [loopEnds]
      split <;> rfl
    exact ⟨signals, hcomm, hs, hkept ▸ hv⟩
  | signal => exact ⟨signals ++ [v.now], rfl, by simp, by simp [step]⟩
  | look p =>
    have hcomm : ({ v with signals } : Vigil).look p = { v.look p with signals } := by
      rw [look, look, hready]
      cases v.ready? p <;> rfl
    have hkept : (v.look p).signals = v.signals := by
      rw [look]
      cases v.ready? p <;> rfl
    exact ⟨signals, hcomm, hs, hkept ▸ hv⟩
  | tick =>
    have hcomm : ({ v with signals } : Vigil).tick = { v.tick with signals } := by
      rw [tick, tick, hready]
      split <;> rfl
    have hkept : v.tick.signals = v.signals := by
      rw [tick]
      split <;> rfl
    exact ⟨signals, hcomm, hs, hkept ▸ hv⟩

lemma run_of_signaled (hv : v.signals ≠ []) {signals : List Nat} (hs : signals ≠ [])
    (happenings : List Happening) :
    ∃ more, ({ v with signals } : Vigil).run happenings =
      { v.run happenings with signals := more } := by
  induction happenings generalizing v signals with
  | nil => exact ⟨signals, rfl⟩
  | cons happening rest ih =>
    obtain ⟨more, hstep, hmore, hkept⟩ := step_of_signaled hv hs happening
    obtain ⟨last, hrest⟩ := ih hkept hmore
    refine ⟨last, ?_⟩
    rw [run, List.foldl_cons, hstep]
    exact hrest

end Vigil

end DeviceFleet
