import DeviceFleet.Proofs.Agent.Assurance

/-! One beat of a heartbeat. Where nobody comes between its calls, it leaves the record of its device
as the heartbeat has it. Whatever a store of any kind answers, it comes to one outcome. -/

namespace DeviceFleet

open Simulation

namespace Client

variable {α σ : Type}

/-- A client may hear these replies, and then be done. -/
inductive Hears : Client α → List Reply → α → Prop
  | done (a : α) : Hears (.done a) [] a
  | call {q : Request} {next : q.Result → Client α} (result : q.Result) {replies : List Reply}
      {a : α} : Hears (next result) replies a → Hears (.call q next) (⟨q, result⟩ :: replies) a

/-- Runs a client on a store of any kind. What others do to it between two calls is a matter of how it
answers. -/
def runWith (perform : σ → (q : Request) → q.Result × σ) : Client α → σ → List Reply × α × σ
  | .done a, s => ([], a, s)
  | .call q next, s =>
    let (r, s) := perform s q
    let (replies, a, s) := (next r).runWith perform s
    (⟨q, r⟩ :: replies, a, s)

lemma hears_runWith (perform : σ → (q : Request) → q.Result × σ) (c : Client α) (s : σ) :
    c.Hears (c.runWith perform s).1 (c.runWith perform s).2.1 := by
  induction c generalizing s with
  | done a => exact .done a
  | call q next ih => exact .call _ (ih _ _)

lemma hears_runAmid (clock : Nat → Timestamp) (n : Nat) (pauses : List (List Turn)) (c : Client α)
    (crowd : Crowd) :
    c.Hears ((c.runAmid clock n pauses crowd).1.map Visit.reply)
      (c.runAmid clock n pauses crowd).2.1 := by
  induction c generalizing n pauses crowd with
  | done a => exact .done a
  | call q next ih => exact .call _ (ih _ _ _ _)

end Client

/-- What the store hears of a beat, and what the beat makes of the replies. -/
structure Tallied (r : Record) (replies : List Reply) (e : BeatEnd) : Prop where
  updates : (replies.map Sigma.fst).count (.update r) = 1
  creates : (replies.map Sigma.fst).count (.create r) ≤ 1
  calls : ∀ q ∈ replies.map Sigma.fst, q = .update r ∨ q = .create r
  missing : ∀ i reply, replies[i]? = some reply → reply.1 = .create r →
    ∃ k, replies.take i = [⟨.update r, .error (.notFound k)⟩]
  ok : e.result = .ok ↔ ∃ v, replies.getLast? = some ⟨.update r, .ok v⟩
  recreated : e.result = .recreated ↔ ∃ v, replies.getLast? = some ⟨.create r, .ok v⟩
  error : e.result = .error ↔ ∃ last, replies.getLast? = some last ∧ last.failure? ≠ none

/-- The courses that a beat can take. -/
inductive Beaten (r : Record) : List Reply → BeatEnd → Prop
  | refreshed (v : Record) : Beaten r [⟨.update r, .ok v⟩] .refreshed
  | updateFailed {e : StoreError} :
      (∀ k, e ≠ .notFound k) → Beaten r [⟨.update r, .error e⟩] (.updateFailed e)
  | recreated (k : Key) (v : Record) :
      Beaten r [⟨.update r, .error (.notFound k)⟩, ⟨.create r, .ok v⟩] .recreated
  | createFailed (k : Key) (e : StoreError) :
      Beaten r [⟨.update r, .error (.notFound k)⟩, ⟨.create r, .error e⟩] (.createFailed e)

section Beat

variable {r : Record} {s : Store} {replies : List Reply} {e : BeatEnd}

lemma Beaten.of_hears (h : (beat r).Hears replies e) : Beaten r replies e := by
  cases h with
  | call result h =>
    cases result with
    | ok v =>
      cases h
      exact .refreshed v
    | error f =>
      cases f with
      | notFound k =>
        cases h with
        | call result h =>
          cases result with
          | ok v =>
            cases h
            exact .recreated k v
          | error f =>
            cases h
            exact .createFailed k f
      | alreadyExists | invalidKey | invalidPageToken =>
        cases h
        exact .updateFailed nofun

lemma missing_of_single {first : Reply} (hfirst : first.1 = .update r) :
    ∀ i reply, [first][i]? = some reply → reply.1 = .create r →
      ∃ k, [first].take i = [⟨.update r, .error (.notFound k)⟩] := by
  rintro (_ | i) reply hreply hcreate
  · obtain rfl : first = reply := Option.some.inj hreply
    exact absurd (hfirst.symm.trans hcreate) nofun
  · exact absurd hreply nofun

lemma missing_of_pair {k : Key} {second : Reply} :
    ∀ i reply, ([⟨.update r, .error (.notFound k)⟩, second] : List Reply)[i]? = some reply →
      reply.1 = .create r →
      ∃ k', ([⟨.update r, .error (.notFound k)⟩, second] : List Reply).take i =
        [⟨.update r, .error (.notFound k')⟩] := by
  rintro (_ | _ | i) reply hreply hcreate
  · obtain rfl : ⟨.update r, .error (.notFound k)⟩ = reply := Option.some.inj hreply
    exact absurd hcreate nofun
  · exact ⟨k, rfl⟩
  · exact absurd hreply nofun

lemma Beaten.tallied (h : Beaten r replies e) : Tallied r replies e := by
  cases h with
  | refreshed v =>
    exact ⟨by simp, by simp, by simp, missing_of_single rfl, by simp [BeatEnd.result],
      by simp [BeatEnd.result], by simp [BeatEnd.result, Reply.failure?]⟩
  | updateFailed hf =>
    exact ⟨by simp, by simp, by simp, missing_of_single rfl, by simp [BeatEnd.result],
      by simp [BeatEnd.result], by simp [BeatEnd.result, Reply.failure?]⟩
  | recreated k v =>
    exact ⟨by simp, by simp, by simp, missing_of_pair, by simp [BeatEnd.result],
      by simp [BeatEnd.result], by simp [BeatEnd.result, Reply.failure?]⟩
  | createFailed k f =>
    exact ⟨by simp, by simp, by simp, missing_of_pair, by simp [BeatEnd.result],
      by simp [BeatEnd.result], by simp [BeatEnd.result, Reply.failure?]⟩

lemma runOn_beat (hs : s.Filed) (hr : r.key.check = .ok ()) (clock : Nat → Timestamp) (n : Nat) :
    ((beat r).runOn clock n s).1 =
        (if (s.record? r.key).isSome then BeatEnd.refreshed else .recreated) ∧
      Store.Registers r s ((beat r).runOn clock n s).2 := by
  cases hfound : s.record? r.key with
  | none =>
    have hmissing := Store.update_of_free hr hfound (clock n)
    have hcreated := Store.create_of_free hr hfound (clock (n + 1))
    have hafter := (Store.registers_of_created hs hcreated).1
    simp only [beat, Client.runOn, Store.perform, hmissing]
    generalize s.create (clock (n + 1)) r = ran at hcreated hafter
    obtain ⟨result, after⟩ := ran
    obtain rfl : result = .ok (r.stamped (clock (n + 1))) := hcreated
    exact ⟨rfl, hafter⟩
  | some old =>
    have hupdated := Store.update_of_held hr hfound (clock n)
    have hafter := (Store.registers_of_updated hs hupdated).1
    simp only [beat, Client.runOn, Store.perform]
    generalize s.update (clock n) r = ran at hupdated hafter
    obtain ⟨result, after⟩ := ran
    obtain rfl : result = .ok (r.revised (clock n) old) := hupdated
    exact ⟨rfl, hafter⟩

end Beat

namespace Store

variable {s t : Store} {k : Key}

lemma get_congr (h : t.record? k = s.record? k) : t.get k = s.get k := by
  simp only [get, h]

end Store

def Metrics.beats (m : Metrics) : List BeatResult :=
  m.recorded.filterMap fun
    | .heartbeat result => some result
    | _ => none

namespace Simulation.World

variable {α : Type} {scope : Option Scope} {w : World}

/-- A store under a script of faults, as far as its calls return. -/
def reply (scope : Option Scope) (w : World) (q : Request) : q.Result × World :=
  let (cue, script) := w.script.next q.operation
  let w := { w with script }
  match cue with
  | .refuse kind => (.error (scriptedError q kind), w)
  | .pass | .stall | .crash => w.perform scope q

lemma runWith_of_finished {c : Client α} {a : α} {after : World}
    (h : w.run scope c = (.finished a, after)) :
    (c.runWith (reply scope) w).2 = (a, after) := by
  induction c generalizing w with
  | done b =>
    obtain ⟨hb, hw⟩ := Prod.mk.inj h
    exact Prod.ext (Progress.finished.inj hb) hw
  | call q next ih =>
    rw [run] at h
    rw [Client.runWith, reply]
    generalize w.script.next q.operation = cued at h ⊢
    obtain ⟨cue, script⟩ := cued
    cases cue with
    | pass => exact ih _ h
    | refuse kind => exact ih _ h
    | stall | crash => cases h

lemma beats_perform (scope : Option Scope) (q : Request) (w : World) :
    (w.perform scope q).2.telemetry.metrics.beats = w.telemetry.metrics.beats := by
  have hmetrics := metrics_performAt scope w.wallClock w q
  change (w.perform scope q).2.telemetry.metrics = _ at hmetrics
  rw [hmetrics, Metrics.beats, Metrics.recorded_observe]
  rfl

lemma beats_run (scope : Option Scope) (c : Client α) (w : World) :
    (w.run scope c).2.telemetry.metrics.beats = w.telemetry.metrics.beats := by
  induction c generalizing w with
  | done a => rfl
  | call q next ih =>
    rw [run]
    cases w.script.next q.operation with
    | mk cue script =>
      cases cue with
      | pass => exact (ih _ _).trans (beats_perform scope q _)
      | refuse kind => exact ih _ _
      | stall | crash => rfl

lemma beats_reportBeat (r : Record) (e : BeatEnd) (w : World) :
    (w.reportBeat r scope e).telemetry.metrics.beats = e.result :: w.telemetry.metrics.beats := by
  cases e <;> rfl

/-- Where its calls return, a beat comes to the outcome that its store makes of it, and counts it. -/
lemma beats_runBeat (b : Beater) (ticker : Ticker) (c : Client BeatEnd) (w : World) :
    (w.runBeat b ticker c).2.telemetry.metrics.beats =
      match (w.run b.scope c).1 with
      | .finished _ => (c.runWith (reply b.scope) w).2.1.result :: w.telemetry.metrics.beats
      | .stalled _ | .crashed => w.telemetry.metrics.beats := by
  have hkept := beats_run b.scope c w
  rw [runBeat]
  cases hran : w.run b.scope c with
  | mk progress after =>
    rw [hran] at hkept
    cases progress with
    | finished e =>
      rw [runWith_of_finished hran]
      exact (beats_reportBeat _ e after).trans (congrArg _ hkept)
    | stalled rest => exact hkept
    | crashed => exact hkept

end Simulation.World

/-- Where nobody comes between its two calls, a beat leaves the record of its device there with the
tags and the control plane of the heartbeat: one that was there before stays the same but for a later
change, all other keys are left alone, and there is one record more if there was none. Whatever a
store answers and whatever others do meanwhile, a beat updates once, creates at most once and only
after the update has missed the record, and counts one outcome when its calls have returned, which is
a success if its last call was. -/
theorem beat_keeps_record (r : Record) :
    (∀ (qs : List Request) (turns : List Turn) (clock : Nat → Timestamp), r.key.check = .ok () →
      let found := ((Crowd.ofRequests .empty qs).run turns).shared.store
      let (e, after) := (beat r).runOn clock 0 found
      (∃ v, after.get r.key = .ok v ∧
        v.key = r.key ∧ v.tags = r.tags ∧ v.controlPlane = r.controlPlane ∧
        ∀ old, found.get r.key = .ok old →
          v.createdAt = old.createdAt ∧ old.modifiedAt.nanos ≤ v.modifiedAt.nanos) ∧
      (∀ k, k ≠ r.key → after.get k = found.get k) ∧
      match found.get r.key with
      | .ok _ => e = .refreshed ∧ after.devices = found.devices
      | .error _ => e = .recreated ∧ after.devices = found.devices + 1) ∧
    (∀ (σ : Type) (perform : σ → (q : Request) → q.Result × σ) (s : σ),
      let ran := (beat r).runWith perform s
      Tallied r ran.1 ran.2.1) ∧
    (∀ (qs : List Request) (before : List Turn) (pauses : List (List Turn))
        (clock : Nat → Timestamp),
      let ran := (beat r).runAmid clock 0 pauses ((Crowd.ofRequests .empty qs).run before)
      Tallied r (ran.1.map Visit.reply) ran.2.1) ∧
    ∀ (b : Beater) (ticker : Ticker) (w : World),
      (w.runBeat b ticker (beat r)).2.telemetry.metrics.beats =
        match (w.run b.scope (beat r)).1 with
        | .finished _ =>
          ((beat r).runWith (World.reply b.scope) w).2.1.result :: w.telemetry.metrics.beats
        | .stalled _ | .crashed => w.telemetry.metrics.beats := by
  refine ⟨fun qs turns clock hr => ?_, fun σ perform s => ?_, fun qs before pauses clock => ?_,
    fun b ticker w => World.beats_runBeat b ticker (beat r) w⟩
  · have hs : ((Crowd.ofRequests .empty qs).run turns).shared.store.Filed :=
      ((Crowd.sound_ofRequests qs).run turns).filed
    obtain ⟨hend, hafter⟩ := runOn_beat hs hr clock 0
    obtain ⟨v, hheld, hsame, hold⟩ := hafter.held
    obtain ⟨hkey, htags, hplane⟩ := Record.sameContent_iff.mp hsame
    refine ⟨⟨v, Store.get_of_record? hafter.filed hheld, hkey, htags, hplane,
      fun old hfound => hold old (Store.record?_of_get hfound)⟩,
      fun k hk => Store.get_congr (hafter.others k hk), ?_⟩
    have hdevices := hafter.devices
    cases hfound : ((Crowd.ofRequests .empty qs).run turns).shared.store.record? r.key with
    | none =>
      rw [hfound] at hend hdevices
      rw [Store.get_of_free hr hfound]
      exact ⟨hend, hdevices⟩
    | some old =>
      rw [hfound] at hend hdevices
      rw [Store.get_of_record? hs hfound]
      exact ⟨hend, hdevices.trans (add_zero _)⟩
  · exact (Beaten.of_hears (Client.hears_runWith perform (beat r) s)).tallied
  · exact (Beaten.of_hears (Client.hears_runAmid clock 0 pauses (beat r) _)).tallied

/-- Another client has taken the record out, and has yet to count that. -/
theorem beat_keeps_record_acme :
    let r := (Record.new "acme" "gw").withTag "site" "lab"
    let found := ((Crowd.ofRequests .empty [.create (.new "acme" "gw"), .delete ⟨"acme", "gw"⟩]).run
      [(0, .epoch), (0, .epoch), (1, .epoch)]).shared.store
    let ran := (beat r).runOn (fun _ => .epoch) 0 found
    r.key.check = .ok () ∧ (∃ v, ran.2.get r.key = .ok v ∧ v.tags = r.tags) ∧
      ran.1 = .recreated ∧ ran.2.devices = found.devices + 1 := by
  intro r found ran
  have hvalid : r.key.check = .ok () := by decide
  have hmissing : found.get r.key = .error (.notFound r.key) := by decide
  obtain ⟨⟨v, hget, _, htags, _⟩, _, hend⟩ := (beat_keeps_record r).1
    [.create (.new "acme" "gw"), .delete ⟨"acme", "gw"⟩]
    [(0, .epoch), (0, .epoch), (1, .epoch)] (fun _ => .epoch) hvalid
  change match found.get r.key with
    | .ok _ => _
    | .error _ => _ at hend
  rw [hmissing] at hend
  exact ⟨hvalid, ⟨v, hget, htags⟩, hend⟩

end DeviceFleet
