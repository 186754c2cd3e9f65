import DeviceFleet.Http.Api
import DeviceFleet.Proofs.Agent.Registration
import DeviceFleet.Proofs.Fleet.Bookkeeping

/-! What clients of a store do to it while some of their calls are refused, stall or crash. A device
that registers and beats keeps one record; the read-only interface keeps none. -/

namespace DeviceFleet

open Simulation

namespace Client

variable {α β : Type} {P : Request → Prop} {safe : Store → Prop} {post : α → Store → Prop}
  {c : Client α} {s : Store}

/-- All calls of a client, whatever it is answered, are of a kind. -/
inductive Calls (P : Request → Prop) : Client α → Prop
  | done (a : α) : Calls P (.done a)
  | call {q : Request} {next : q.Result → Client α} :
      P q → (∀ result, Calls P (next result)) → Calls P (.call q next)

lemma Calls.map (h : c.Calls P) (f : α → β) : (c.map f).Calls P := by
  induction h with
  | done a => exact .done (f a)
  | call hq _ ih => exact .call hq ih

/-- Whatever the clock says and whichever calls are refused, a client comes to a good end, and the
store is safe wherever it may be cut off. -/
inductive Assures (safe : Store → Prop) (post : α → Store → Prop) : Client α → Store → Prop
  | done {a : α} {s : Store} : post a s → Assures safe post (.done a) s
  | call {q : Request} {next : q.Result → Client α} {s : Store} : safe s →
      (∀ kind, Assures safe post (next (.error (scriptedError q kind))) s) →
      (∀ now, Assures safe post (next (s.perform now q).1) (s.perform now q).2) →
      Assures safe post (.call q next) s

lemma Calls.assures (h : c.Calls P) (hs : safe s)
    (hstep : ∀ now s q, P q → safe s → safe (s.perform now q).2) :
    c.Assures safe (fun _ => safe) s := by
  induction h generalizing s with
  | done a => exact .done hs
  | call hq _ ih => exact .call hs (fun kind => ih _ hs) fun now => ih _ (hstep now s _ hq hs)

end Client

namespace Record

variable {r v : Record}

lemma sameContent_iff :
    v.sameContent r = true ↔ v.key = r.key ∧ v.tags = r.tags ∧ v.controlPlane = r.controlPlane := by
  simp [sameContent, key, and_assoc]

/-- One and the same record at a later time. -/
def Succeeds (v old : Record) : Prop :=
  v.createdAt = old.createdAt ∧ old.modifiedAt.nanos ≤ v.modifiedAt.nanos

lemma Succeeds.refl (v : Record) : v.Succeeds v := ⟨rfl, le_rfl⟩

lemma Succeeds.trans {u w : Record} (h : w.Succeeds v) (h' : v.Succeeds u) : w.Succeeds u :=
  ⟨h.1.trans h'.1, h'.2.trans h.2⟩

lemma succeeds_revised (now : Timestamp) (r old : Record) : (r.revised now old).Succeeds old := by
  refine ⟨rfl, ?_⟩
  change old.modifiedAt.nanos ≤ (Timestamp.latest now old.modifiedAt).nanos
  rcases Timestamp.latest_cases now old.modifiedAt with ⟨heq, hle⟩ | ⟨heq, _⟩
  · rwa [heq]
  · rw [heq]

end Record

namespace Store

variable {s found : Store} {own r v : Record}

/-- The store as it was found, but for the record that a device has of its own. -/
structure Registers (own : Record) (found s : Store) : Prop where
  filed : s.Filed
  held : ∃ v, s.record? own.key = some v ∧ v.sameContent own ∧
    ∀ old, found.record? own.key = some old → v.Succeeds old
  others : ∀ k, k ≠ own.key → s.record? k = found.record? k
  devices : s.devices = found.devices + if (found.record? own.key).isSome then 0 else 1

lemma Registers.rebase (h : Registers own found s) : Registers own s s := by
  obtain ⟨v, hheld, hsame, _⟩ := h.held
  refine ⟨h.filed, ⟨v, hheld, hsame, fun old hold => ?_⟩, fun _ _ => rfl, by simp [hheld]⟩
  obtain rfl : v = old := Option.some.inj (hheld.symm.trans hold)
  exact .refl v

lemma Registers.create (h : Registers own found s) (hr : r.sameContent own) (now : Timestamp) :
    Registers own found (s.create now r).2 := by
  obtain ⟨v, hheld, _⟩ := h.held
  rw [← (Record.sameContent_iff.mp hr).1] at hheld
  rw [create_of_held (h.filed.valid hheld) hheld now]
  exact h

lemma Registers.update (h : Registers own found s) (hr : r.sameContent own) (now : Timestamp) :
    Registers own found (s.update now r).2 := by
  obtain ⟨v, hheld, hsame, hearlier⟩ := h.held
  obtain ⟨hkey, htags, hplane⟩ := Record.sameContent_iff.mp hr
  rw [← hkey] at hheld
  have hview := record?_update_of_held (h.filed.valid hheld) hheld now
  rw [hkey] at hview
  refine ⟨h.filed.perform now (.update r), ⟨r.revised now v, ?_, ?_, ?_⟩, ?_, ?_⟩
  · rw [hview, if_pos rfl]
  · exact Record.sameContent_iff.mpr ⟨(Record.sameContent_iff.mp hsame).1, htags, hplane⟩
  · exact fun old hold => (Record.succeeds_revised now r v).trans (hearlier old hold)
  · intro k hk
    rw [hview, if_neg hk]
    exact h.others k hk
  · have hcount := devices_perform now (.update r) s
    exact hcount.trans ((add_zero _).trans h.devices)

lemma registers_of_created {now : Timestamp} (hs : s.Filed) (h : (s.create now r).1 = .ok v) :
    Registers r s (s.create now r).2 ∧ v.sameContent r := by
  obtain ⟨hr, hheld⟩ := record?_of_created h
  cases hfree : s.record? r.key with
  | some old => simp [create_of_held hr hfree] at h
  | none =>
    obtain rfl : r.stamped now = v := by simpa [create_of_free hr hfree] using h
    have hview := record?_create_of_free hr hfree now
    refine ⟨⟨hs.perform now (.create r), ⟨r.stamped now, hheld, ?_, ?_⟩, ?_, ?_⟩, ?_⟩
    · exact Record.sameContent_iff.mpr ⟨rfl, rfl, rfl⟩
    · simp [hfree]
    · intro k hk
      rw [hview, if_neg hk]
    · have hcount := devices_perform now (.create r) s
      simpa [Store.perform, h, Reply.growth, hfree] using hcount
    · exact Record.sameContent_iff.mpr ⟨rfl, rfl, rfl⟩

lemma registers_of_updated {now : Timestamp} (hs : s.Filed) (h : (s.update now r).1 = .ok v) :
    Registers r s (s.update now r).2 ∧ v.sameContent r := by
  cases hr : r.key.check with
  | error e => simp [update, hr] at h
  | ok u =>
    cases hheld : s.record? r.key with
    | none => simp [update_of_free hr hheld] at h
    | some old =>
      obtain rfl : r.revised now old = v := by simpa [update_of_held hr hheld] using h
      have hview := record?_update_of_held hr hheld now
      have hkey : old.key = r.key := hs.own hheld
      have hsame : (r.revised now old).sameContent r :=
        Record.sameContent_iff.mpr ⟨hkey, rfl, rfl⟩
      refine ⟨⟨hs.perform now (.update r), ⟨r.revised now old, ?_, hsame, ?_⟩, ?_, ?_⟩, hsame⟩
      · rw [hview, if_pos rfl]
      · intro first hfirst
        obtain rfl : old = first := Option.some.inj (hheld.symm.trans hfirst)
        exact Record.succeeds_revised now r old
      · intro k hk
        rw [hview, if_neg hk]
      · have hcount := devices_perform now (.update r) s
        simpa [Store.perform, Reply.growth, hheld] using hcount

end Store

section Device

variable {own r : Record} {s found : Store}

lemma calls_beat (r : Record) : (beat r).Calls fun q => q = .create r ∨ q = .update r := by
  refine .call (.inr rfl) fun result => ?_
  cases result with
  | ok v => exact .done _
  | error e =>
    cases e with
    | notFound k =>
      refine .call (.inl rfl) fun result => ?_
      cases result <;> exact .done _
    | alreadyExists | invalidKey | invalidPageToken => exact .done _

lemma assures_beat (h : Store.Registers own found s) (hr : r.sameContent own) :
    (beat r).Assures (Store.Registers own found) (fun _ => Store.Registers own found) s := by
  refine (calls_beat r).assures h fun now t q hq ht => ?_
  rcases hq with rfl | rfl
  · exact ht.create hr now
  · exact ht.update hr now

/-- What a registration leaves once it has succeeded, and before. -/
def Enrolled (r : Record) (found : Store) : Except ServiceError Record → Store → Prop
  | .ok v, s => Store.Registers r found s ∧ v.sameContent r
  | .error _, s => s = found

lemma assures_register (hs : s.Filed) :
    (register r).Assures (fun t => t = s) (Enrolled r s) s := by
  have hsecond (next : Except StoreError Record → Client (Except ServiceError Record))
      (hok : ∀ v, next (.ok v) = .done (.ok v))
      (herror : ∀ e, next (.error e) = .done (.error (.registration e))) :
      (Client.call (.update r) next).Assures (fun t => t = s) (Enrolled r s) s := by
    refine .call rfl (fun kind => herror _ ▸ .done rfl) fun now => ?_
    cases hresult : (s.perform now (.update r)).1 with
    | ok v => exact (hok v).symm ▸ .done (Store.registers_of_updated hs hresult)
    | error e => exact (herror e).symm ▸ .done (Store.perform_of_error hresult)
  refine .call rfl (fun kind => ?_) fun now => ?_
  · cases kind with
    | alreadyExists => exact hsecond _ (fun _ => rfl) fun _ => rfl
    | notFound | invalidKey | invalidPageToken => exact .done rfl
  · cases hresult : (s.perform now (.create r)).1 with
    | ok v => exact .done (Store.registers_of_created hs hresult)
    | error e =>
      rw [Store.perform_of_error hresult]
      cases e with
      | alreadyExists k => exact hsecond _ (fun _ => rfl) fun _ => rfl
      | notFound | invalidKey | invalidPageToken => exact .done rfl

end Device

def Request.IsRead (q : Request) : Prop := q.operation = .get ∨ q.operation = .list

lemma Request.IsRead.perform {q : Request} (h : q.IsRead) (now : Timestamp) (s : Store) :
    (s.perform now q).2 = s := by
  cases q with
  | get | list => rfl
  | create | update | delete => simp [IsRead, operation] at h

namespace Http

variable (h : Health)

lemma calls_listDevices (tenant : String) (p : ListParams) :
    (listDevices tenant p).Calls Request.IsRead := by
  rw [listDevices]
  cases readToken p with
  | error e => exact .done _
  | ok token => exact .call (.inr rfl) fun _ => .done _

lemma calls_answer (query : String) (route : Route) :
    (answer h query route).Calls Request.IsRead := by
  cases route with
  | health => exact .done _
  | devices tenant =>
    rw [answer]
    cases decodeSegment? tenant with
    | none => exact .done _
    | some tenant =>
      cases hp : ListParams.parse query with
      | error flaw => simpa [hp] using .done _
      | ok p => simpa [hp] using calls_listDevices tenant p
  | device tenant name =>
    rw [answer]
    cases decodeSegment? tenant with
    | none => exact .done _
    | some tenant =>
      cases decodeSegment? name with
      | none => exact .done _
      | some name => exact .call (.inl rfl) fun _ => .done _

lemma calls_respond (method : String) (uri : Uri) :
    (respond h method uri).Calls Request.IsRead := by
  rw [respond]
  cases Route.ofPath? uri.path with
  | none => exact .done _
  | some route =>
    dsimp only
    split
    · exact calls_answer h uri.query route
    · split
      · exact (calls_answer h uri.query route).map Response.withoutBody
      · exact .done _

end Http

namespace Simulation

variable {α : Type} {safe : Store → Prop} {post : α → Store → Prop} {c : Client α}

/-- The progress of a client with the store it has left is as was assured. -/
def Progress.Meets (safe : Store → Prop) (post : α → Store → Prop) : Progress α → Store → Prop
  | .finished a, s => post a s
  | .stalled _, s => safe s
  | .crashed, s => safe s

namespace World

lemma frame_run (scope : Option Scope) (c : Client α) (w : World) :
    (w.run scope c).2.schedule = w.schedule ∧ (w.run scope c).2.beaters = w.beaters := by
  induction c generalizing w with
  | done a => exact ⟨rfl, rfl⟩
  | call q next ih =>
    rw [run]
    cases w.script.next q.operation with
    | mk cue script =>
      cases cue with
      | pass => exact ih _ _
      | refuse kind => exact ih _ _
      | stall | crash => exact ⟨rfl, rfl⟩

lemma beaters_run (scope : Option Scope) (c : Client α) (w : World) :
    (w.run scope c).2.beaters = w.beaters := (frame_run scope c w).2

lemma frame_runBeat (b : Beater) (t : Ticker) (c : Client BeatEnd) (w : World) :
    (w.runBeat b t c).2.schedule = w.schedule ∧ (w.runBeat b t c).2.beaters = w.beaters := by
  have hkept := frame_run b.scope c w
  rw [runBeat]
  generalize w.run b.scope c = ran at hkept
  obtain ⟨progress, w'⟩ := ran
  cases progress with
  | finished e => cases e <;> exact hkept
  | stalled | crashed => exact hkept

lemma meets_run (scope : Option Scope) {w : World} (h : c.Assures safe post w.store) :
    (w.run scope c).1.Meets safe post (w.run scope c).2.store := by
  generalize hs : w.store = s at h
  induction h generalizing w with
  | done ha => exact hs ▸ ha
  | @call q next s hsafe _ _ hrefused hpassed =>
    subst hs
    rw [run]
    cases w.script.next q.operation with
    | mk cue script =>
      cases cue with
      | pass => exact hpassed w.wallClock rfl
      | refuse kind => exact hrefused kind rfl
      | stall | crash => exact hsafe

/-- A client that only reads leaves the store as it is, wherever it may be cut off. -/
lemma store_run_of_reads (scope : Option Scope) (h : c.Calls Request.IsRead) (w : World) :
    (w.run scope c).2.store = w.store := by
  have hassured : c.Assures (fun t => t = w.store) (fun _ t => t = w.store) w.store :=
    h.assures rfl fun now t q hq ht => (hq.perform now t).trans ht
  have hmet := meets_run scope hassured
  cases hprogress : (w.run scope c).1 <;> rw [hprogress] at hmet <;> exact hmet

section Turns

variable {P : Beater × World → Prop} {b : Beater} {w : World}

/-- What a waiting heartbeat keeps when it beats at its time and when it stops, it keeps while it is
awake. -/
lemma wakeBeater_keeps_waiting
    (hbeat : ∀ b w t, b.phase = .waiting t → t.due ≤ w.schedule.rung → P (b, w) →
      P (w.runBeat b (t.fire w.schedule.now) (beat b.heartbeat.record)))
    (hstop : ∀ b w t, b.phase = .waiting t → P (b, w) →
      P ({ b with phase := .ended }, w.log b.scope Heartbeat.stopEvent))
    (fuel : Nat) (h : P (b, w)) : P (wakeBeater fuel b w) := by
  induction fuel generalizing b w with
  | zero => exact h
  | succ fuel ih =>
    cases hphase : b.phase with
    | waiting t =>
      cases hstopping : b.stopping with
      | true =>
        simp only [wakeBeater, hphase, Heartbeat.wake, hstopping, if_true]
        simpa only [hstopping] using hstop b w t hphase h
      | false =>
        cases hdue : t.isDue w.schedule.rung with
        | true =>
          simp only [wakeBeater, hphase, Heartbeat.wake, hstopping, hdue, if_true, if_false,
            Bool.false_eq_true]
          exact ih (hbeat b w t hphase (of_decide_eq_true hdue) h)
        | false =>
          simpa only [wakeBeater, hphase, Heartbeat.wake, hstopping, hdue, if_false,
            Bool.false_eq_true] using h
    | spawned | beating | ended | crashed =>
      simpa only [wakeBeater, hphase, Heartbeat.wake] using h

/-- What a heartbeat keeps when it beats and when it stops, it keeps while it is awake. -/
lemma wakeBeater_keeps
    (hbeat : ∀ b w ticker, P (b, w) → P (w.runBeat b ticker (beat b.heartbeat.record)))
    (hstop : ∀ b w, P (b, w) → P ({ b with phase := .ended }, w.log b.scope Heartbeat.stopEvent))
    (fuel : Nat) (h : P (b, w)) : P (wakeBeater fuel b w) :=
  wakeBeater_keeps_waiting (fun b w _ _ _ => hbeat b w _) (fun b w _ _ => hstop b w) fuel h

lemma advanceBeater_keeps (hbegin : ∀ b w, P (b, w) → P (w.beginBeater b))
    (hbeat : ∀ b w ticker, P (b, w) → P (w.runBeat b ticker (beat b.heartbeat.record)))
    (hstop : ∀ b w, P (b, w) → P ({ b with phase := .ended }, w.log b.scope Heartbeat.stopEvent))
    (h : P (b, w)) : P (w.advanceBeater b) := by
  rw [advanceBeater]
  split
  · exact wakeBeater_keeps hbeat hstop beatsAllowed (hbegin b w h)
  · exact wakeBeater_keeps hbeat hstop beatsAllowed h

lemma withBeater_of_nil (h : w.beaters = []) (i : Nat) (f : Beater → World → Beater × World) :
    w.withBeater i f = w := by
  rw [withBeater, h]
  rfl

/-- The store answers a call that it has kept, and the beat goes on. -/
def answerBeat (reply : (q : Request) → q.Result) (b : Beater) (w : World) : Beater × World :=
  match b.phase with
  | .beating ticker (.call q next) =>
    let (b, w) := w.runBeat b ticker (next (reply q))
    wakeBeater beatsAllowed b w
  | _ => (b, w)

/-- A heartbeat whose ticker has gone off beats, although it may have been told to stop. -/
def beatFirst (b : Beater) (w : World) : Beater × World :=
  match b.heartbeat.wake false w.schedule.rung w.schedule.now b.phase, b.phase with
  | .beating ticker c, .waiting _ => w.runBeat b ticker c
  | _, _ => (b, w)

lemma beatFirst_keeps
    (hbeat : ∀ t, b.phase = .waiting t → t.due ≤ w.schedule.rung →
      P (w.runBeat b (t.fire w.schedule.now) (beat b.heartbeat.record)))
    (h : P (b, w)) : P (w.beatFirst b) := by
  cases hphase : b.phase with
  | waiting t =>
    cases hdue : t.isDue w.schedule.rung with
    | true =>
      simp only [beatFirst, hphase, Heartbeat.wake, hdue, if_true, if_false, Bool.false_eq_true]
      exact hbeat t hphase (of_decide_eq_true hdue)
    | false =>
      simpa only [beatFirst, hphase, Heartbeat.wake, hdue, if_false, Bool.false_eq_true] using h
  | spawned | beating | ended | crashed =>
    simpa only [beatFirst, hphase, Heartbeat.wake] using h

end Turns

end World

end Simulation

end DeviceFleet
