import DeviceFleet.Lifecycle.Supervisor
import Mathlib.Tactic.Lemma

/-! The course of a process from start to exit: what its supervisor publishes, logs, counts and
returns, whatever occurs and in whatever order. -/

namespace DeviceFleet

def Lifecycle.paths : List (List Lifecycle) := [
  [.initializing, .failed],
  [.initializing, .running, .stopped],
  [.initializing, .running, .failed],
  [.initializing, .running, .shuttingDown, .stopped],
  [.initializing, .running, .shuttingDown, .failed]]

/-- The message about a move that was asked for and refused. -/
def Tracker.refusalText : String := "Ignoring illegal lifecycle transition"

lemma Tracker.message_event (t : Tracker) (next : Lifecycle) :
    (t.event next).message = refusalText ↔ t.accepts next = false := by
  cases h : t.accepts next <;> simp [event, h, refusalText]

/-- What was logged since then tells of no refused move. -/
def Telemetry.Unrefused (before after : Telemetry) : Prop :=
  ∃ added, after.newest = added ++ before.newest ∧
    ∀ r ∈ added, r.event.message ≠ Tracker.refusalText

namespace Telemetry

variable {t u v : Telemetry}

lemma Unrefused.refl (t : Telemetry) : t.Unrefused t := ⟨[], rfl, by simp⟩

lemma Unrefused.trans (htu : t.Unrefused u) (huv : u.Unrefused v) : t.Unrefused v := by
  obtain ⟨earlier, hu, hearlier⟩ := htu
  obtain ⟨later, hv, hlater⟩ := huv
  refine ⟨later ++ earlier, by rw [hv, hu, List.append_assoc], fun r hr => ?_⟩
  rcases List.mem_append.mp hr with hr | hr
  · exact hlater r hr
  · exact hearlier r hr

lemma Unrefused.log (h : t.Unrefused u) (scope : Option Scope) {e : Event}
    (he : e.message ≠ Tracker.refusalText) : t.Unrefused (u.log scope e) :=
  h.trans ⟨[⟨e, scope⟩], rfl, by simpa using he⟩

lemma Unrefused.count (h : t.Unrefused u) (c : Counter) : t.Unrefused (u.count c) := h

end Telemetry

def Occurrence.endsInitialization : Occurrence → Bool
  | .initialized => true
  | .initializationFailed _ => true
  | _ => false

/-- A supervisor, the states it has published in order, and the telemetry of its process. -/
structure Course where
  supervisor : Supervisor
  published : List Lifecycle
  telemetry : Telemetry

namespace Course

def start (t : Telemetry) : Course := ⟨.initial, [.initializing], t⟩

/-- An observer that has seen all states so far looks again after each occurrence. -/
def occur (scope : Option Scope) (deadline : Binary64) (c : Course) (o : Occurrence) : Course :=
  let s := c.supervisor.react o
  { supervisor := s
    published :=
      if s.tracker.changedFor c.supervisor.tracker.subscribe then c.published ++ [s.tracker.current]
      else c.published
    telemetry := c.supervisor.report scope deadline o c.telemetry }

def run (scope : Option Scope) (deadline : Binary64) (c : Course) (os : List Occurrence) : Course :=
  os.foldl (occur scope deadline) c

end Course

namespace Supervisor

def asks? (s : Supervisor) (o : Occurrence) : Option Lifecycle :=
  match s.phase, o with
  | .initializing, .initialized => some .running
  | .initializing, .initializationFailed _ => some .failed
  | .serving, .loopEnded how => some (stateOf (resultOf false how))
  | .serving, .terminationRequested => some .shuttingDown
  | .unwinding, .loopEnded how => some (stateOf (resultOf true how))
  | .unwinding, .deadlinePassed => some .stopped
  | _, _ => none

/-- The phases of a supervisor, each with how the initialization ended and what is published. -/
inductive Stage : Option Occurrence → Phase → List Lifecycle → Prop
  | initializing : Stage none .initializing [.initializing]
  | unable (why : Failure) :
      Stage (some (.initializationFailed why)) (.returned (.error why)) [.initializing, .failed]
  | serving : Stage (some .initialized) .serving [.initializing, .running]
  | ended (how : LoopEnd) :
      Stage (some .initialized) (.returned (resultOf false how))
        [.initializing, .running, stateOf (resultOf false how)]
  | unwinding : Stage (some .initialized) .unwinding [.initializing, .running, .shuttingDown]
  | unwound (how : LoopEnd) :
      Stage (some .initialized) (.returned (resultOf true how))
        [.initializing, .running, .shuttingDown, stateOf (resultOf true how)]
  | cutOff :
      Stage (some .initialized) (.returned (.ok ⟨true, true⟩))
        [.initializing, .running, .shuttingDown, .stopped]

variable {s : Supervisor} {o : Occurrence} {outcome : Option Occurrence} {published : List Lifecycle}
  {next : Lifecycle} {phase : Phase}

lemma Stage.react (h : Stage outcome s.phase published) (o : Occurrence) :
    Stage (outcome.or ([o].find? Occurrence.endsInitialization)) (s.react o).phase
      (published ++ (s.asks? o).toList) := by
  obtain ⟨phase, tracker, readyCount, stopAsked⟩ := s
  cases h with
  | initializing =>
    cases o with
    | initialized => exact .serving
    | initializationFailed why => exact .unable why
    | loopEnded | terminationRequested | deadlinePassed => exact .initializing
  | serving =>
    cases o with
    | loopEnded how => exact .ended how
    | terminationRequested => exact .unwinding
    | initialized | initializationFailed | deadlinePassed => exact .serving
  | unwinding =>
    cases o with
    | loopEnded how => exact .unwound how
    | deadlinePassed => exact .cutOff
    | initialized | initializationFailed | terminationRequested => exact .unwinding
  | unable why => cases o <;> exact .unable why
  | ended how => cases o <;> simpa [asks?, Supervisor.react] using Stage.ended how
  | unwound how => cases o <;> simpa [asks?, Supervisor.react] using Stage.unwound how
  | cutOff => cases o <;> exact .cutOff

lemma Stage.isPrefix (h : Stage outcome phase published) :
    ∃ path ∈ Lifecycle.paths, published <+: path := by
  cases h with
  | initializing => exact ⟨[.initializing, .failed], by decide, by decide⟩
  | unable => exact ⟨[.initializing, .failed], by decide, by decide⟩
  | serving => exact ⟨[.initializing, .running, .stopped], by decide, by decide⟩
  | ended how =>
    refine ⟨_, ?_, List.prefix_rfl⟩
    cases how <;> simp [Lifecycle.paths, stateOf, resultOf]
  | unwinding =>
    exact ⟨[.initializing, .running, .shuttingDown, .stopped], by decide, by decide⟩
  | unwound how =>
    refine ⟨_, ?_, List.prefix_rfl⟩
    cases how <;> simp [Lifecycle.paths, stateOf, resultOf]
  | cutOff => exact ⟨_, by decide, List.prefix_rfl⟩

lemma Stage.nodup (h : Stage outcome phase published) : published.Nodup := by
  obtain ⟨path, hpath, hprefix⟩ := h.isPrefix
  have hpaths : ∀ path ∈ Lifecycle.paths, path.Nodup := by decide
  exact (hpaths path hpath).sublist hprefix.sublist

lemma Stage.running_mem_iff (h : Stage outcome phase published) :
    .running ∈ published ↔ outcome = some .initialized := by
  cases h <;> simp

lemma Stage.getLast?_of_returned {r : RunResult} (h : Stage outcome phase published)
    (hr : phase = .returned r) : published.getLast? = some (stateOf r) := by
  cases h with
  | initializing | serving | unwinding => cases hr
  | unable | ended | unwound | cutOff => cases hr; rfl

lemma Stage.not_isTerminal {state : Lifecycle} (h : Stage outcome phase published)
    (hr : ∀ r, phase ≠ .returned r) (hstate : published.getLast? = some state) :
    state.isTerminal = false := by
  cases h with
  | initializing | serving | unwinding => cases hstate; rfl
  | unable | ended | unwound | cutOff => exact absurd rfl (hr _)

lemma Stage.signaled_iff {report : Report} (h : Stage outcome phase published)
    (hr : phase = .returned (.ok report)) :
    (report.signaled = true ↔ .shuttingDown ∈ published) ∧
      (report.timedOut = true → report.signaled = true) := by
  cases h with
  | initializing | serving | unwinding | unable => cases hr
  | ended how => cases how <;> cases hr; simp [stateOf, resultOf]
  | unwound how => cases how <;> cases hr; simp
  | cutOff => cases hr; simp

lemma Stage.accepts (h : Stage outcome s.phase published)
    (hcurrent : published.getLast? = some s.tracker.current) (hnext : s.asks? o = some next) :
    s.tracker.accepts next = true := by
  obtain ⟨phase, ⟨current, version⟩, readyCount, stopAsked⟩ := s
  cases h with
  | initializing =>
    obtain rfl : Lifecycle.initializing = current := Option.some.inj hcurrent
    cases o <;> cases hnext <;> rfl
  | serving =>
    obtain rfl : Lifecycle.running = current := Option.some.inj hcurrent
    cases o with
    | loopEnded how => cases how <;> cases hnext <;> rfl
    | terminationRequested => cases hnext; rfl
    | initialized | initializationFailed | deadlinePassed => cases hnext
  | unwinding =>
    obtain rfl : Lifecycle.shuttingDown = current := Option.some.inj hcurrent
    cases o with
    | loopEnded how => cases how <;> cases hnext <;> rfl
    | deadlinePassed => cases hnext; rfl
    | initialized | initializationFailed | terminationRequested => cases hnext
  | unable | ended | unwound | cutOff => cases o <;> cases hnext

lemma result?_eq_some_iff {r : RunResult} : s.result? = some r ↔ s.phase = .returned r := by
  cases h : s.phase <;> simp [result?, h]

lemma tracker_react_of_none (h : s.asks? o = none) : (s.react o).tracker = s.tracker := by
  obtain ⟨phase, tracker, readyCount, stopAsked⟩ := s
  cases phase <;> cases o <;> first | rfl | cases h

lemma tracker_react_of_some (h : s.asks? o = some next) (haccepts : s.tracker.accepts next = true) :
    (s.react o).tracker = ⟨next, s.tracker.version + 1⟩ := by
  have htransition : (s.react o).tracker = (s.tracker.transition next).2 := by
    obtain ⟨phase, tracker, readyCount, stopAsked⟩ := s
    cases phase <;> cases o <;> cases h <;> rfl
  rw [htransition, Tracker.transition, if_pos haccepts]

lemma readyCount_react (s : Supervisor) (o : Occurrence) :
    (s.react o).readyCount = s.readyCount + (s.asks? o).toList.count .running := by
  obtain ⟨phase, tracker, readyCount, stopAsked⟩ := s
  cases phase <;> cases o with
  | loopEnded how => cases how <;> rfl
  | _ => rfl

lemma unrefused_logAll (scope : Option Scope) {t u : Telemetry} (h : t.Unrefused u)
    {es : List Event} (hes : ∀ e ∈ es, e.message ≠ Tracker.refusalText) :
    t.Unrefused (logAll scope es u) := by
  induction es generalizing u with
  | nil => exact h
  | cons e rest ih =>
    exact ih (h.log scope (hes e List.mem_cons_self)) fun e he => hes e (List.mem_cons_of_mem _ he)

lemma metrics_logAll (scope : Option Scope) (es : List Event) (t : Telemetry) :
    (logAll scope es t).metrics = t.metrics := by
  induction es generalizing t with
  | nil => rfl
  | cons e rest ih => exact ih (t.log scope e)

lemma report_of_none (scope : Option Scope) (deadline : Binary64) (t : Telemetry)
    (h : s.asks? o = none) : s.report scope deadline o t = t := by
  obtain ⟨phase, tracker, readyCount, stopAsked⟩ := s
  cases phase <;> cases o <;> first | rfl | cases h

lemma exists_report_eq (scope : Option Scope) (deadline : Binary64) (t : Telemetry)
    (h : s.asks? o = some next) :
    ∃ span before after,
      s.report scope deadline o t =
        logAll scope after (s.tracker.report span next (logAll scope before t)) ∧
      ∀ e ∈ before ++ after, e.message ≠ Tracker.refusalText := by
  obtain ⟨phase, tracker, readyCount, stopAsked⟩ := s
  cases phase with
  | initializing =>
    cases o with
    | initialized => cases h; exact ⟨scope, [], [], rfl, by simp⟩
    | initializationFailed why => cases h; exact ⟨none, [], [], rfl, by simp⟩
    | loopEnded | terminationRequested | deadlinePassed => cases h
  | serving =>
    cases o with
    | loopEnded how =>
      cases h
      refine ⟨scope, note .info "Run loop returned without a termination signal" [] ::
        (endEvents how).1, (endEvents how).2, ?_, ?_⟩
      · cases how <;> rfl
      · cases how <;> simp [endEvents, note, Tracker.refusalText]
    | terminationRequested => cases h; exact ⟨scope, [], [], rfl, by simp⟩
    | initialized | initializationFailed | deadlinePassed => cases h
  | unwinding =>
    cases o with
    | loopEnded how =>
      cases h
      refine ⟨scope, note .info "Service unwound before the deadline" [("elapsed_ms", .integer 0)] ::
        (endEvents how).1, (endEvents how).2, rfl, ?_⟩
      cases how <;> simp [endEvents, note, Tracker.refusalText]
    | deadlinePassed =>
      cases h
      refine ⟨scope, [note .warn "Shutdown deadline elapsed, no longer waiting for the service"
        [("timeout_secs", .number deadline)]], [], rfl, ?_⟩
      simp [note, Tracker.refusalText]
    | initialized | initializationFailed | terminationRequested => cases h
  | returned => cases o <;> cases h

lemma unrefused_report (scope : Option Scope) (deadline : Binary64) (t : Telemetry)
    (h : ∀ next ∈ s.asks? o, s.tracker.accepts next = true) :
    t.Unrefused (s.report scope deadline o t) := by
  cases hnext : s.asks? o with
  | none =>
    rw [report_of_none scope deadline t hnext]
    exact .refl t
  | some next =>
    obtain ⟨span, before, after, heq, hmessages⟩ := exists_report_eq scope deadline t hnext
    have haccepts := h next hnext
    have hbefore : t.Unrefused (logAll scope before t) :=
      unrefused_logAll scope (.refl t) fun e he => hmessages e (List.mem_append_left _ he)
    have hmove : t.Unrefused ((logAll scope before t).log span (s.tracker.event next)) := by
      refine hbefore.log span ?_
      rw [ne_eq, Tracker.message_event, haccepts]
      exact Bool.noConfusion
    rw [heq, Tracker.report, if_pos haccepts]
    exact unrefused_logAll scope (hmove.count _) fun e he => hmessages e (List.mem_append_right _ he)

lemma metrics_report (scope : Option Scope) (deadline : Binary64) (t : Telemetry)
    (h : ∀ next ∈ s.asks? o, s.tracker.accepts next = true) :
    (s.report scope deadline o t).metrics =
      match s.asks? o with
      | none => t.metrics
      | some next => t.metrics.record (.transition next) := by
  cases hnext : s.asks? o with
  | none => rw [report_of_none scope deadline t hnext]
  | some next =>
    obtain ⟨span, before, after, heq, _⟩ := exists_report_eq scope deadline t hnext
    rw [heq, metrics_logAll, Tracker.report, if_pos (h next hnext), Telemetry.count, Telemetry.log,
      metrics_logAll]

end Supervisor

namespace Course

open Supervisor

variable {t : Telemetry} {scope : Option Scope} {deadline : Binary64} {past : List Occurrence}
  {c : Course} {o : Occurrence}

/-- What holds at any time: the states published fit the phase, and so do the other channels. -/
structure Lawful (t : Telemetry) (past : List Occurrence) (c : Course) : Prop where
  stage : Stage (past.find? Occurrence.endsInitialization) c.supervisor.phase c.published
  current : c.published.getLast? = some c.supervisor.tracker.current
  version : c.supervisor.tracker.version + 1 = c.published.length
  ready : c.supervisor.readyCount = c.published.count .running
  counted : ∀ state, c.telemetry.metrics.count (.transition state) =
    t.metrics.count (.transition state) + c.published.tail.count state
  unrefused : t.Unrefused c.telemetry

lemma lawful_start (t : Telemetry) : Lawful t [] (start t) :=
  ⟨.initializing, rfl, rfl, rfl, fun _ => rfl, .refl t⟩

lemma published_occur (h : ∀ next ∈ c.supervisor.asks? o, c.supervisor.tracker.accepts next = true) :
    (c.occur scope deadline o).published = c.published ++ (c.supervisor.asks? o).toList := by
  cases hnext : c.supervisor.asks? o with
  | none => simp [occur, tracker_react_of_none hnext, Tracker.changedFor, Tracker.subscribe]
  | some next =>
    simp [occur, tracker_react_of_some hnext (h next hnext), Tracker.changedFor, Tracker.subscribe]

lemma Lawful.published_ne_nil (h : Lawful t past c) : c.published ≠ [] := by
  intro hnil
  have hlen := h.version
  simp [hnil] at hlen

lemma Lawful.occur (h : Lawful t past c) (o : Occurrence) :
    Lawful t (past ++ [o]) (c.occur scope deadline o) := by
  have haccepts : ∀ next ∈ c.supervisor.asks? o, c.supervisor.tracker.accepts next = true :=
    fun next hnext => h.stage.accepts h.current hnext
  have hpublished : (c.occur scope deadline o).published = _ := published_occur haccepts
  constructor
  case stage =>
    rw [hpublished, List.find?_append]
    exact h.stage.react o
  case current =>
    rw [hpublished]
    cases hnext : c.supervisor.asks? o with
    | none => simpa [Course.occur, tracker_react_of_none hnext] using h.current
    | some next => simp [Course.occur, tracker_react_of_some hnext (haccepts next hnext)]
  case version =>
    rw [hpublished, List.length_append, ← h.version]
    cases hnext : c.supervisor.asks? o with
    | none => simp [Course.occur, tracker_react_of_none hnext]
    | some next => simp [Course.occur, tracker_react_of_some hnext (haccepts next hnext)]
  case ready =>
    rw [hpublished, List.count_append, ← h.ready]
    exact readyCount_react c.supervisor o
  case counted =>
    intro state
    rw [hpublished, List.tail_append_of_ne_nil h.published_ne_nil, List.count_append,
      ← Nat.add_assoc, ← h.counted state]
    have hmetrics := metrics_report scope deadline c.telemetry haccepts
    cases hnext : c.supervisor.asks? o with
    | none => simp [Course.occur, hmetrics, hnext]
    | some next => simp [Course.occur, hmetrics, hnext, Metrics.count, Metrics.record, List.count_cons]
  case unrefused =>
    exact h.unrefused.trans (unrefused_report scope deadline c.telemetry haccepts)

lemma Lawful.run (h : Lawful t past c) (os : List Occurrence) :
    Lawful t (past ++ os) (c.run scope deadline os) := by
  induction os generalizing past c with
  | nil => simpa [Course.run] using h
  | cons o rest ih =>
    have hstep : Lawful t (past ++ [o]) (c.occur scope deadline o) := h.occur o
    have hrest := ih hstep
    rwa [List.append_assoc, List.singleton_append] at hrest

lemma Lawful.current_eq (h : Lawful t past c) {r : RunResult}
    (hr : c.supervisor.result? = some r) : c.supervisor.tracker.current = stateOf r := by
  have hlast := h.stage.getLast?_of_returned (result?_eq_some_iff.mp hr)
  exact Option.some.inj (h.current.symm.trans hlast)

lemma Lawful.result?_isSome_iff (h : Lawful t past c) :
    c.supervisor.result?.isSome ↔ c.supervisor.tracker.current.isTerminal = true := by
  cases hr : c.supervisor.result? with
  | none =>
    have hgoing : ∀ r, c.supervisor.phase ≠ .returned r := by
      intro r hphase
      rw [result?_eq_some_iff.mpr hphase] at hr
      cases hr
    simp [h.stage.not_isTerminal hgoing h.current]
  | some r =>
    rw [h.current_eq hr]
    cases r <;> simp [stateOf, Lifecycle.isTerminal]

/-- Whatever occurs to a supervisor, and in whatever order: the states it publishes are a way through
the states, or the beginning of one; all that it asks for is granted, published and counted once; its
start is announced once, if it was initialized; and its result fits the last state. -/
theorem course_fits_path (t : Telemetry) (scope : Option Scope) (deadline : Binary64)
    (os : List Occurrence) :
    let c := (start t).run scope deadline os
    let current := c.supervisor.tracker.current
    let initialized := os.find? Occurrence.endsInitialization = some .initialized
    (∃ path ∈ Lifecycle.paths, c.published <+: path) ∧
      c.published.getLast? = some current ∧
      c.supervisor.tracker.version + 1 = c.published.length ∧
      t.Unrefused c.telemetry ∧
      (∀ state, c.telemetry.metrics.count (.transition state) =
        t.metrics.count (.transition state) + if state ∈ c.published.tail then 1 else 0) ∧
      c.supervisor.readyCount = (if initialized then 1 else 0) ∧
      (.running ∈ c.published ↔ initialized) ∧
      (c.supervisor.result?.isSome ↔ current.isTerminal = true) ∧
      ∀ r, c.supervisor.result? = some r →
        ((∃ report, r = .ok report) ↔ current = .stopped) ∧
        ((∃ why, r = .error why) ↔ current = .failed) ∧
        (exitStatus r = 0 ↔ ∃ report, r = .ok report) ∧
        ∀ report, r = .ok report →
          (report.signaled = true ↔ .shuttingDown ∈ c.published) ∧
          (report.timedOut = true → report.signaled = true) := by
  intro c current initialized
  have h : Lawful t os c := (lawful_start t).run os
  refine ⟨h.stage.isPrefix, h.current, h.version, h.unrefused, fun state => ?_, ?_,
    h.stage.running_mem_iff, h.result?_isSome_iff, fun r hr => ?_⟩
  · rw [h.counted state, (h.stage.nodup.sublist (List.tail_sublist _)).count]
  · rw [h.ready, h.stage.nodup.count]
    simp only [h.stage.running_mem_iff]
    rfl
  · have hcurrent : current = stateOf r := h.current_eq hr
    refine ⟨?_, ?_, ?_, fun report hreport => ?_⟩
    · cases r <;> simp [hcurrent, stateOf]
    · cases r <;> simp [hcurrent, stateOf]
    · cases r <;> simp [exitStatus]
    · exact h.stage.signaled_iff (hreport ▸ result?_eq_some_iff.mp hr)

end Course

end DeviceFleet
