import DeviceFleet.Lifecycle.Tracker
import Mathlib.Data.List.Chain
import Mathlib.Data.List.Perm.Subperm
import Mathlib.Tactic.Lemma

/-! Requests for moves to one tracker, from any callers and in any order: which of them are granted,
what they publish and count, and why they come to an end. -/

namespace DeviceFleet

namespace Lifecycle

/-- The moves that there are. -/
def edges : List (Lifecycle × Lifecycle) := [
  (.initializing, .running), (.running, .shuttingDown), (.shuttingDown, .stopped),
  (.running, .stopped),
  (.initializing, .failed), (.running, .failed), (.shuttingDown, .failed)]

/-- States in order, each a move away from the one before it. -/
structure IsPath (states : List Lifecycle) : Prop where
  begins : states.head? = some .initializing
  moves : states.IsChain fun s next => (s, next) ∈ edges

/-- How far a state is on the way; every move leads further. -/
def rank : Lifecycle → Nat
  | .initializing => 0
  | .running => 1
  | .shuttingDown => 2
  | .stopped => 3
  | .failed => 3

variable {s next last : Lifecycle} {states : List Lifecycle}

lemma canMoveTo_iff_mem_edges : s.canMoveTo next = true ↔ (s, next) ∈ edges := by
  cases s <;> cases next <;> decide

lemma rank_lt_of_mem_edges (h : (s, next) ∈ edges) : s.rank < next.rank := by
  have hedges : ∀ e ∈ edges, e.1.rank < e.2.rank := by decide
  exact hedges _ h

lemma rank_lt_four (s : Lifecycle) : s.rank < 4 := by
  cases s <;> decide

lemma isTerminal_iff_le_rank : s.isTerminal = true ↔ 3 ≤ s.rank := by
  cases s <;> decide

namespace IsPath

lemma ranks_ascend (h : IsPath states) : (states.map rank).Pairwise (· < ·) := by
  have hchain : (states.map rank).IsChain (· < ·) :=
    (List.isChain_map rank).mpr (h.moves.imp fun _ _ => rank_lt_of_mem_edges)
  exact hchain.pairwise

lemma nodup_ranks (h : IsPath states) : (states.map rank).Nodup :=
  h.ranks_ascend.imp Nat.ne_of_lt

lemma nodup (h : IsPath states) : states.Nodup := by
  have hranks := List.pairwise_map.mp h.nodup_ranks
  exact hranks.imp fun hne heq => hne (congrArg rank heq)

lemma length_le (h : IsPath states) : states.length ≤ 4 := by
  have hsub : states.map rank ⊆ List.range 4 := by
    intro r hr
    obtain ⟨s, -, rfl⟩ := List.mem_map.mp hr
    exact List.mem_range.mpr s.rank_lt_four
  simpa using (h.nodup_ranks.subperm hsub).length_le

/-- A terminal state can only be the last. -/
lemma eq_last_of_isTerminal (h : IsPath states) (hlast : states.getLast? = some last)
    (hs : s ∈ states) (hterminal : s.isTerminal = true) : s = last := by
  obtain ⟨earlier, rfl⟩ := List.getLast?_eq_some_iff.mp hlast
  rcases List.mem_append.mp hs with hs | hs
  · have hranks := h.ranks_ascend
    rw [List.map_append, List.pairwise_append] at hranks
    have hlt : s.rank < last.rank :=
      hranks.2.2 s.rank (List.mem_map_of_mem hs) last.rank (by simp)
    have hle := isTerminal_iff_le_rank.mp hterminal
    have hfour := last.rank_lt_four
    omega
  · exact List.mem_singleton.mp hs

/-- A state on the way, but for the first, was entered from another one there. -/
lemma exists_edge (h : IsPath states) (hs : s ∈ states) (hne : s ≠ .initializing) :
    ∃ s' ∈ states, (s', s) ∈ edges := by
  obtain ⟨i, hi, rfl⟩ := List.mem_iff_getElem.mp hs
  cases i with
  | zero =>
    have hfirst := h.begins
    rw [List.head?_eq_getElem?, List.getElem?_eq_getElem hi] at hfirst
    exact absurd (Option.some.inj hfirst) hne
  | succ i =>
    exact ⟨states[i], List.getElem_mem _, List.isChain_iff_getElem.mp h.moves i hi⟩

lemma running_mem_of_shuttingDown (h : IsPath states) (hs : .shuttingDown ∈ states) :
    .running ∈ states := by
  obtain ⟨s, hs, hedge⟩ := h.exists_edge hs nofun
  have honly : ∀ e ∈ edges, e.2 = .shuttingDown → e.1 = .running := by decide
  exact honly _ hedge rfl ▸ hs

lemma running_mem_of_stopped (h : IsPath states) (hs : .stopped ∈ states) : .running ∈ states := by
  obtain ⟨s, hs, hedge⟩ := h.exists_edge hs nofun
  have honly : ∀ e ∈ edges, e.2 = .stopped → e.1 = .running ∨ e.1 = .shuttingDown := by decide
  rcases honly _ hedge rfl with hrunning | hshutting
  · exact hrunning ▸ hs
  · exact h.running_mem_of_shuttingDown (hshutting ▸ hs)

lemma append (h : IsPath states) (hlast : states.getLast? = some last)
    (hedge : (last, next) ∈ edges) : IsPath (states ++ [next]) := by
  refine ⟨?_, h.moves.append (.singleton next) ?_⟩
  · rw [List.head?_append, h.begins]
    rfl
  · rintro s hs t ht
    obtain rfl : last = s := Option.some.inj (hlast.symm.trans hs)
    obtain rfl : next = t := Option.some.inj ht
    exact hedge

end IsPath

end Lifecycle

/-- What a caller, inside some span, asks of a tracker. -/
structure MoveRequest where
  caller : Option Scope
  next : Lifecycle

/-- A tracker with its answers so far, the states that an observer has seen, and log and metrics. -/
structure Tracking where
  tracker : Tracker
  published : List Lifecycle
  answers : List Bool
  telemetry : Telemetry

namespace Tracking

open Lifecycle

def start (t : Telemetry) : Tracking := ⟨.initial, [.initializing], [], t⟩

/-- An observer that has seen all states so far looks again after each request. -/
def request (c : Tracking) (q : MoveRequest) : Tracking :=
  let (granted, tracker) := c.tracker.transition q.next
  { tracker
    published :=
      if tracker.changedFor c.tracker.subscribe then c.published ++ [tracker.current]
      else c.published
    answers := c.answers ++ [granted]
    telemetry := c.tracker.report q.caller q.next c.telemetry }

def run (c : Tracking) (qs : List MoveRequest) : Tracking := qs.foldl request c

variable {t : Telemetry} {c c' : Tracking} {q : MoveRequest}

/-- All that can come of a request. -/
inductive Requested (c : Tracking) (q : MoveRequest) : Tracking → Prop
  | refused : (c.tracker.current, q.next) ∉ edges → Requested c q
      { c with
        answers := c.answers ++ [false]
        telemetry := c.telemetry.log q.caller (c.tracker.event q.next) }
  | granted : (c.tracker.current, q.next) ∈ edges → Requested c q
      { tracker := ⟨q.next, c.tracker.version + 1⟩
        published := c.published ++ [q.next]
        answers := c.answers ++ [true]
        telemetry :=
          (c.telemetry.log q.caller (c.tracker.event q.next)).count (.transition q.next) }

lemma requested (c : Tracking) (q : MoveRequest) : c.Requested q (c.request q) := by
  by_cases hedge : (c.tracker.current, q.next) ∈ edges
  · have haccepts : c.tracker.accepts q.next = true := canMoveTo_iff_mem_edges.mpr hedge
    simp only [request, Tracker.transition, Tracker.report, haccepts, if_true, Tracker.changedFor,
      Tracker.subscribe]
    simpa using Requested.granted hedge
  · have haccepts : c.tracker.accepts q.next = false := by
      rwa [Bool.eq_false_iff, ne_eq, Tracker.accepts, canMoveTo_iff_mem_edges]
    simp only [request, Tracker.transition, Tracker.report, haccepts, Tracker.changedFor,
      Tracker.subscribe]
    simpa using Requested.refused hedge

/-- What holds after any requests. -/
structure Lawful (t : Telemetry) (c : Tracking) : Prop where
  path : IsPath c.published
  current : c.published.getLast? = some c.tracker.current
  granted : c.answers.count true + 1 = c.published.length
  counted : ∀ state, c.telemetry.metrics.count (.transition state) =
    t.metrics.count (.transition state) + c.published.tail.count state

lemma lawful_start (t : Telemetry) : (start t).Lawful t :=
  ⟨⟨rfl, .singleton _⟩, rfl, rfl, fun _ => rfl⟩

lemma Lawful.requested (h : c.Lawful t) (hc : c.Requested q c') : c'.Lawful t := by
  obtain ⟨hpath, hcurrent, hgranted, hcounted⟩ := h
  cases hc with
  | refused => exact ⟨hpath, hcurrent, by simpa using hgranted, hcounted⟩
  | granted hedge =>
    have hne : c.published ≠ [] := by
      intro hnil
      simp [hnil] at hcurrent
    refine ⟨hpath.append hcurrent hedge, by simp, by simpa using hgranted, fun state => ?_⟩
    rw [List.tail_append_of_ne_nil hne, List.count_append, ← Nat.add_assoc, ← hcounted state]
    simp [Telemetry.count, Telemetry.log, Metrics.record, Metrics.count, List.count_cons]

lemma Lawful.run (h : c.Lawful t) (qs : List MoveRequest) : (c.run qs).Lawful t := by
  induction qs generalizing c with
  | nil => exact h
  | cons q rest ih => exact ih (h.requested (Tracking.requested c q))

lemma request_of_isTerminal (h : c.tracker.current.isTerminal = true) (q : MoveRequest) :
    c.request q = { c with
      answers := c.answers ++ [false]
      telemetry := c.telemetry.log q.caller (c.tracker.event q.next) } := by
  have hrequested := requested c q
  generalize c.request q = c' at hrequested
  cases hrequested with
  | refused => rfl
  | granted hedge =>
    have hlt := rank_lt_of_mem_edges hedge
    have hle := isTerminal_iff_le_rank.mp h
    have hfour := q.next.rank_lt_four
    omega

/-- Nothing comes of a request after the last state but the message about its refusal. -/
lemma run_of_isTerminal (h : c.tracker.current.isTerminal = true) (qs : List MoveRequest) :
    (c.run qs).tracker = c.tracker ∧ (c.run qs).published = c.published ∧
      (c.run qs).telemetry.metrics = c.telemetry.metrics ∧
      (c.run qs).answers = c.answers ++ List.replicate qs.length false := by
  induction qs generalizing c with
  | nil => exact ⟨rfl, rfl, rfl, (List.append_nil _).symm⟩
  | cons q rest ih =>
    have hfirst := request_of_isTerminal h q
    have hrest := ih (c := c.request q) (by rw [hfirst]; exact h)
    rw [hfirst] at hrest
    obtain ⟨htracker, hpublished, hmetrics, hanswers⟩ := hrest
    rw [Tracking.run, List.foldl_cons, hfirst]
    refine ⟨htracker, hpublished, hmetrics, hanswers.trans ?_⟩
    rw [List.append_assoc, List.length_cons, List.replicate_succ, List.singleton_append]

/-- Whatever is requested of a tracker, and by whomever: a request is granted just if it changes the
state that is published, and it does if that is a move. The states published are a way along the
moves; none is entered twice, so that three requests are granted at most and each state is counted
once at most. After a terminal state all is refused and nothing changes. A process that shuts down or
has stopped was running before, and any that has not come to its end can fail. -/
theorem requests_follow_moves (t : Telemetry) (qs : List MoveRequest) :
    let c := (start t).run qs
    (∀ q, ∃ granted, (c.request q).answers = c.answers ++ [granted] ∧
      (granted = true ↔ (c.request q).tracker.current ≠ c.tracker.current) ∧
      (granted = true ↔ (c.tracker.current, q.next) ∈ edges) ∧
      (c.request q).published = c.published ++ if granted then [q.next] else []) ∧
    IsPath c.published ∧ c.published.getLast? = some c.tracker.current ∧
    c.published.Nodup ∧ c.answers.count true + 1 = c.published.length ∧
    c.answers.count true ≤ 3 ∧
    (∀ state, c.telemetry.metrics.count (.transition state) =
      t.metrics.count (.transition state) + if state ∈ c.published.tail then 1 else 0) ∧
    (.stopped ∈ c.published ∨ .failed ∈ c.published → ∀ later,
      (c.run later).tracker = c.tracker ∧ (c.run later).published = c.published ∧
        (c.run later).telemetry.metrics = c.telemetry.metrics ∧
        (c.run later).answers = c.answers ++ List.replicate later.length false) ∧
    (.shuttingDown ∈ c.published ∨ .stopped ∈ c.published → .running ∈ c.published) ∧
    (c.tracker.current.isTerminal = false →
      ∀ caller, (c.request ⟨caller, .failed⟩).tracker.current = .failed) := by
  intro c
  have h : c.Lawful t := (lawful_start t).run qs
  refine ⟨fun q => ?_, h.path, h.current, h.path.nodup, h.granted, ?_, fun state => ?_,
    fun hended => run_of_isTerminal ?_, fun hentered => ?_, fun hgoing caller => ?_⟩
  · have hrequested := requested c q
    generalize c.request q = c' at hrequested
    cases hrequested with
    | refused hedge => exact ⟨false, rfl, by simp, by simpa using hedge, (List.append_nil _).symm⟩
    | granted hedge =>
      have hne : q.next ≠ c.tracker.current := by
        intro heq
        have hlt := rank_lt_of_mem_edges hedge
        rw [heq] at hlt
        exact Nat.lt_irrefl _ hlt
      exact ⟨true, rfl, by simpa using hne, by simpa using hedge, rfl⟩
  · have hgranted := h.granted
    have hlength := h.path.length_le
    omega
  · rw [h.counted state, (h.path.nodup.sublist (List.tail_sublist _)).count]
  · rcases hended with hstopped | hfailed
    · exact h.path.eq_last_of_isTerminal h.current hstopped rfl ▸ rfl
    · exact h.path.eq_last_of_isTerminal h.current hfailed rfl ▸ rfl
  · rcases hentered with hshutting | hstopped
    · exact h.path.running_mem_of_shuttingDown hshutting
    · exact h.path.running_mem_of_stopped hstopped
  · have hedge : ∀ s : Lifecycle, s.isTerminal = false → (s, .failed) ∈ edges := by
      intro s
      cases s <;> decide
    have hrequested := requested c ⟨caller, .failed⟩
    generalize c.request ⟨caller, .failed⟩ = c' at hrequested
    cases hrequested with
    | refused hnone => exact absurd (hedge _ hgoing) hnone
    | granted => rfl

/-- Two callers compete: one shuts a process down, and the other asks for its failure too late. -/
theorem requests_follow_moves_rivals :
    let supervisor : Option Scope := some ⟨"wfdevice", .epoch⟩
    let early : List MoveRequest :=
      [⟨none, .stopped⟩, ⟨supervisor, .running⟩, ⟨none, .running⟩, ⟨supervisor, .shuttingDown⟩]
    let late : List MoveRequest := [⟨none, .failed⟩, ⟨supervisor, .stopped⟩]
    let before := (start .empty).run early
    let after := (start .empty).run (early ++ [⟨supervisor, .stopped⟩])
    (before.tracker.current.isTerminal = false ∧
      (before.request ⟨none, .failed⟩).tracker.current = .failed) ∧
    (.shuttingDown ∈ before.published ∧ .running ∈ before.published) ∧
    after.published = [.initializing, .running, .shuttingDown, .stopped] ∧
    after.answers = [false, true, false, true, true] ∧
    (.stopped ∈ after.published ∧ (after.run late).tracker = after.tracker ∧
      (after.run late).answers = after.answers ++ [false, false]) := by
  intro supervisor early late before after
  obtain ⟨-, -, -, -, -, -, -, -, hrunning, hfails⟩ := requests_follow_moves .empty early
  obtain ⟨-, -, -, -, -, -, -, hends, -, -⟩ :=
    requests_follow_moves .empty (early ++ [⟨supervisor, .stopped⟩])
  have hpublished : after.published = [.initializing, .running, .shuttingDown, .stopped] := rfl
  have hshutting : .shuttingDown ∈ before.published := by decide
  have hstopped : .stopped ∈ after.published := by simp [hpublished]
  obtain ⟨htracker, -, -, hanswers⟩ := hends (.inl hstopped) late
  exact ⟨⟨rfl, hfails rfl none⟩, ⟨hshutting, hrunning (.inl hshutting)⟩, hpublished, rfl, hstopped,
    htracker, hanswers⟩

end Tracking

end DeviceFleet
