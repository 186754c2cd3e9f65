import DeviceFleet.Proofs.Fleet.Locality

/-! The stamps of a record come from the clock alone: from the call that created it, and from the
latest reading of that and all later updates. What stamps a caller sends along is not noticed. -/

namespace DeviceFleet

/-- The records that a reply shows. -/
def Reply.shown : Reply → List Record
  | ⟨.create _, .ok r⟩ => [r]
  | ⟨.get _, .ok r⟩ => [r]
  | ⟨.update _, .ok r⟩ => [r]
  | ⟨.list .., .ok page⟩ => page.records
  | _ => []

def shownAt (replies : List Reply) (i : Nat) : List Record := (replies[i]?.map Reply.shown).getD []

lemma mem_shownAt {replies : List Reply} {i : Nat} {v : Record} :
    v ∈ shownAt replies i ↔ ∃ reply, replies[i]? = some reply ∧ v ∈ reply.shown := by
  cases h : replies[i]? <;> simp [shownAt, h]

namespace Timestamp

/-- The one of some moments after which none of them is. -/
def IsLatest (t : Timestamp) (moments : List Timestamp) : Prop :=
  t ∈ moments ∧ ∀ u ∈ moments, u.nanos ≤ t.nanos

lemma latest_cases (t u : Timestamp) :
    (latest t u = t ∧ u.nanos ≤ t.nanos) ∨ (latest t u = u ∧ t.nanos ≤ u.nanos) := by
  rw [latest]
  split
  · next h => exact Or.inr ⟨rfl, h⟩
  · next h => exact Or.inl ⟨rfl, by omega⟩

lemma IsLatest.latest {t : Timestamp} {moments : List Timestamp} (h : t.IsLatest moments)
    (now : Timestamp) : (latest now t).IsLatest (moments ++ [now]) := by
  obtain ⟨hmem, hmax⟩ := h
  rcases latest_cases now t with ⟨heq, hle⟩ | ⟨heq, hle⟩ <;> rw [heq]
  · refine ⟨List.mem_append_right _ (List.mem_singleton_self _), fun u hu => ?_⟩
    rcases List.mem_append.mp hu with hu | hu
    · exact (hmax u hu).trans hle
    · exact (congrArg nanos (List.mem_singleton.mp hu)).le
  · refine ⟨List.mem_append_left _ hmem, fun u hu => ?_⟩
    rcases List.mem_append.mp hu with hu | hu
    · exact hmax u hu
    · exact (congrArg nanos (List.mem_singleton.mp hu)).le.trans hle

lemma IsLatest.mono {t u : Timestamp} {earlier later : List Timestamp} (ht : t.IsLatest earlier)
    (hu : u.IsLatest later) (h : earlier ⊆ later) : t.nanos ≤ u.nanos := hu.2 t (h ht.1)

end Timestamp

/-- What the clock said at the updates of a key. -/
def updateTimes (k : Key) (calls : List Call) : List Timestamp :=
  (calls.filter fun c => c.2.operation = .update ∧ c.2.key = k).map Prod.fst

namespace Store

variable {s : Store} {now : Timestamp} {q : Request} {k : Key} {v : Record}

lemma Filed.perform (h : s.Filed) (now : Timestamp) (q : Request) : (s.perform now q).2.Filed := by
  cases q with
  | create r =>
    cases hr : r.key.check with
    | error e => simpa only [Store.perform, create, hr] using h
    | ok u => simpa only [Store.perform, create, hr] using h.enroll hr
  | get k => exact h
  | update r =>
    cases hr : r.key.check with
    | error e => simpa only [Store.perform, update, hr] using h
    | ok u => simpa only [Store.perform, update, hr] using h.revise
  | delete k =>
    have htook : (s.takeOut k).2.Filed := h.takeOut
    cases hk : k.check with
    | error e => simpa only [Store.perform, delete, hk] using h
    | ok u =>
      simp only [Store.perform, delete, hk]
      generalize s.takeOut k = took at htook
      obtain ⟨taken, after⟩ := took
      cases taken with
      | false => exact htook
      | true => exact htook.dropEmpty.discount
  | list tenant token size => exact h

lemma Filed.runCalls (h : s.Filed) (calls : List Call) :
    (runCalls Store.perform calls s).2.Filed :=
  runCalls_keeps (fun now _ q h => h.perform now q) calls h

lemma exists_pageOf_of_list {tenant : String} {token : Option PageToken} {size : Nat} {page : Page}
    (h : s.list tenant token size = .ok page) :
    ∃ after, page = pageOf (effectivePageSize size) (s.recordsAfter tenant after) := by
  cases ht : checkTenant tenant with
  | error e => simp [list, ht] at h
  | ok u =>
    cases token with
    | none => exact ⟨none, by simpa [list, ht] using h.symm⟩
    | some t =>
      cases hname : t.lastName with
      | error e => simp [list, ht, hname] at h
      | ok name => exact ⟨some name, by simpa [list, ht, hname] using h.symm⟩

/-- Whatever a call shows of a record is what the store holds after it; and a call about a key shows
no other record. -/
lemma held_of_shown (h : s.Filed) (hv : v ∈ Reply.shown ⟨q, (s.perform now q).1⟩) :
    (s.perform now q).2.record? v.key = some v ∧ (q.operation = .list ∨ v.key = q.key) := by
  cases q with
  | create r =>
    cases hr : r.key.check with
    | error e => simp [Store.perform, create, hr, Reply.shown] at hv
    | ok u =>
      cases hheld : s.record? r.key with
      | some old => simp [Store.perform, create, hr, enroll_of_taken now hheld, Reply.shown] at hv
      | none =>
        simp only [Store.perform, create, hr, enroll_of_free now hheld, Reply.shown,
          List.mem_singleton] at hv
        subst hv
        refine ⟨?_, Or.inr rfl⟩
        change (s.perform now (.create r)).2.record? r.key = _
        rw [record?_perform, Request.key, if_pos rfl, hheld]
        simp only [Request.leaves, Request.key, hr]
  | get j =>
    cases hget : s.get j with
    | error e => simp [Store.perform, hget, Reply.shown] at hv
    | ok r =>
      obtain rfl : v = r := by simpa [Store.perform, hget, Reply.shown] using hv
      have hheld := record?_of_get hget
      have hkey := h.own hheld
      exact ⟨hkey ▸ hheld, Or.inr hkey⟩
  | update r =>
    cases hr : r.key.check with
    | error e => simp [Store.perform, update, hr, Reply.shown] at hv
    | ok u =>
      cases hheld : s.record? r.key with
      | none => simp [Store.perform, update, hr, revise_of_free now hheld, Reply.shown] at hv
      | some old =>
        simp only [Store.perform, update, hr, revise, hheld, Reply.shown, List.mem_singleton] at hv
        subst hv
        have hkey : old.key = r.key := h.own hheld
        refine ⟨?_, Or.inr hkey⟩
        change (s.perform now (.update r)).2.record? old.key = _
        rw [hkey, record?_perform, Request.key, if_pos rfl, hheld]
        simp only [Request.leaves, Request.key, hr]
  | delete j => exact absurd hv List.not_mem_nil
  | list tenant token size =>
    cases hpage : s.list tenant token size with
    | error e => simp [Store.perform, hpage, Reply.shown] at hv
    | ok page =>
      obtain ⟨after, rfl⟩ := exists_pageOf_of_list hpage
      simp only [Store.perform, hpage, Reply.shown] at hv
      have hheld := ((mem_recordsAfter h).mp ((pageOf_sublist _ _).subset hv)).1
      exact ⟨(h.own hheld).symm ▸ hheld, Or.inl rfl⟩

lemma stamps_perform (hk : k.check = .ok ()) (hheld : s.record? k = some v)
    (hq : (⟨q, (s.perform now q).1⟩ : Reply) ≠ ⟨.delete k, .ok ()⟩) :
    ∃ w, (s.perform now q).2.record? k = some w ∧ w.createdAt = v.createdAt ∧
      w.modifiedAt = if q.operation = .update ∧ q.key = k then Timestamp.latest now v.modifiedAt
        else v.modifiedAt := by
  by_cases hkey : q.key = k
  · subst hkey
    rw [record?_perform, if_pos rfl, hheld]
    cases q with
    | create r => exact ⟨v, by simp [Request.leaves], rfl, by simp [Request.operation]⟩
    | get j => exact ⟨v, by simp [Request.leaves], rfl, by simp [Request.operation]⟩
    | update r =>
      simp only [Request.leaves, hk]
      exact ⟨_, rfl, rfl, by simp [Request.operation]⟩
    | delete j =>
      have hreply : (s.delete j).1 = .ok () := by
        have hcheck : j.check = .ok () := hk
        have hthere : s.record? j = some v := hheld
        simp [delete, hcheck, takeOut, hthere]
      exact absurd (congrArg (Sigma.mk (Request.delete j)) hreply) hq
    | list tenant token size =>
      exact ⟨v, by simp [Request.leaves], rfl, by simp [Request.operation]⟩
  · rw [record?_perform, if_neg (Ne.symm hkey)]
    exact ⟨v, hheld, rfl, by simp [hkey]⟩

lemma stamps_runCalls (hk : k.check = .ok ()) (calls : List Call) {moments : List Timestamp}
    (hheld : s.record? k = some v) (hlatest : v.modifiedAt.IsLatest moments)
    (hkept : ⟨.delete k, .ok ()⟩ ∉ (runCalls Store.perform calls s).1) :
    ∃ w, (runCalls Store.perform calls s).2.record? k = some w ∧ w.createdAt = v.createdAt ∧
      w.modifiedAt.IsLatest (moments ++ updateTimes k calls) := by
  -- What the clock has said so far grows by its reading at each update of the key.
  induction calls generalizing s v moments with
  | nil => exact ⟨v, hheld, rfl, by simpa [updateTimes] using hlatest⟩
  | cons call rest ih =>
    obtain ⟨now, q⟩ := call
    rw [runCalls_cons, List.mem_cons, not_or] at hkept
    obtain ⟨w, hw, hcreated, hmodified⟩ := stamps_perform hk hheld (Ne.symm hkept.1)
    by_cases hq : q.operation = .update ∧ q.key = k
    · rw [if_pos hq] at hmodified
      have hstep : w.modifiedAt.IsLatest (moments ++ [now]) := hmodified ▸ hlatest.latest now
      obtain ⟨u, hu, hsame, hlast⟩ := ih hw hstep hkept.2
      refine ⟨u, hu, hsame.trans hcreated, ?_⟩
      simpa [updateTimes, hq] using hlast
    · rw [if_neg hq] at hmodified
      obtain ⟨u, hu, hsame, hlast⟩ := ih hw (hmodified ▸ hlatest) hkept.2
      refine ⟨u, hu, hsame.trans hcreated, ?_⟩
      simpa [updateTimes, hq] using hlast

lemma record?_of_created {r a : Record} (h : (s.create now r).1 = .ok a) :
    r.key.check = .ok () ∧
      (s.create now r).2.record? r.key = some { r with createdAt := now, modifiedAt := now } := by
  cases hr : r.key.check with
  | error e => simp [create, hr] at h
  | ok u =>
    cases hheld : s.record? r.key with
    | some old => simp [create, hr, enroll_of_taken now hheld] at h
    | none => exact ⟨rfl, by simp [create, hr, record?_enroll, hheld]⟩

lemma stamps_of_shown {found : Store} (hfound : found.Filed) {r : Record} {during : List Call}
    (hcreated : ∃ a, (found.create now r).1 = .ok a)
    (hkept : ⟨.delete r.key, .ok ()⟩ ∉
      (runCalls Store.perform ((now, .create r) :: during) found).1)
    {i : Nat} (hv : v ∈ shownAt (runCalls Store.perform ((now, .create r) :: during) found).1 i)
    (hkey : v.key = r.key) :
    v.createdAt = now ∧ v.modifiedAt.IsLatest (now :: updateTimes r.key (during.take i)) := by
  obtain ⟨a, ha⟩ := hcreated
  obtain ⟨hcheck, hheld⟩ := record?_of_created ha
  obtain ⟨reply, hreply, hshown⟩ := mem_shownAt.mp hv
  obtain ⟨t, q, rfl, hafter⟩ := exists_call_of_reply _ hreply
  have hview := (held_of_shown (hfound.runCalls _) hshown).1
  rw [← hafter, hkey, List.take_succ_cons, runCalls_cons] at hview
  have hstart : now.IsLatest [now] := ⟨List.mem_singleton_self now, by simp⟩
  have hkeptYet : ⟨.delete r.key, .ok ()⟩ ∉
      (runCalls Store.perform (during.take i) (found.create now r).2).1 := by
    intro hmem
    rw [runCalls_take] at hmem
    exact hkept (List.mem_cons_of_mem _ (List.mem_of_mem_take hmem))
  obtain ⟨w, hw, hsame, hlatest⟩ := stamps_runCalls hcheck (during.take i) hheld hstart hkeptYet
  obtain rfl : w = v := Option.some.inj (hw.symm.trans hview)
  exact ⟨hsame, hlatest⟩

lemma key_of_shown (h : s.Filed) {calls : List Call} {reply : Reply}
    (hreply : reply ∈ (runCalls Store.perform calls s).1) (hv : v ∈ reply.shown) :
    reply.1.operation = .list ∨ v.key = reply.1.key := by
  obtain ⟨i, hi⟩ := List.getElem?_of_mem hreply
  obtain ⟨now, q, rfl, _⟩ := exists_call_of_reply calls hi
  exact (held_of_shown (h.runCalls _) hv).2

end Store

namespace Record

/-- The record without the stamps that a caller may have put on it. -/
def unstamped (r : Record) : Record := { r with createdAt := .epoch, modifiedAt := .epoch }

end Record

def Request.unstamped : Request → Request
  | .create r => .create r.unstamped
  | .update r => .update r.unstamped
  | q => q

/-- The same result, as one of the request without its caller's stamps. -/
def Reply.unstamped : Reply → Reply
  | ⟨.create r, result⟩ => ⟨.create r.unstamped, result⟩
  | ⟨.update r, result⟩ => ⟨.update r.unstamped, result⟩
  | reply => reply

namespace Store

lemma perform_unstamped (now : Timestamp) (s : Store) (q : Request) :
    (⟨q.unstamped, (s.perform now q.unstamped).1⟩ : Reply) =
        Reply.unstamped ⟨q, (s.perform now q).1⟩ ∧
      (s.perform now q.unstamped).2 = (s.perform now q).2 := by
  cases q <;> exact ⟨rfl, rfl⟩

lemma runCalls_unstamped (calls : List Call) (s : Store) :
    runCalls Store.perform (calls.map fun c => (c.1, c.2.unstamped)) s =
      ((runCalls Store.perform calls s).1.map Reply.unstamped,
        (runCalls Store.perform calls s).2) := by
  induction calls generalizing s with
  | nil => rfl
  | cons call rest ih =>
    obtain ⟨now, q⟩ := call
    obtain ⟨hreply, hafter⟩ := perform_unstamped now s q
    rw [List.map_cons, runCalls_cons, hafter, ih, hreply]
    rfl

/-- From its creation to its deletion all views of a record have the clock's reading at the creation
as the one stamp and the latest reading at the creation and the updates so far as the other, however
the clock is set; and no result and no record depends on stamps that callers send. -/
theorem stamps_are_readings :
    (∀ (before : List Call) (now : Timestamp) (r : Record) (during : List Call),
      let found := (runCalls Store.perform before empty).2
      let replies := (runCalls Store.perform ((now, .create r) :: during) found).1
      (∃ a, (found.create now r).1 = .ok a) → ⟨.delete r.key, .ok ()⟩ ∉ replies →
      (∀ reply ∈ replies, ∀ v ∈ reply.shown, reply.1.operation = .list ∨ v.key = reply.1.key) ∧
      (∀ i, ∀ v ∈ shownAt replies i, v.key = r.key →
        v.createdAt = now ∧ v.createdAt.nanos ≤ v.modifiedAt.nanos ∧
          v.modifiedAt.IsLatest (now :: updateTimes r.key (during.take i))) ∧
      ∀ i j, i ≤ j → ∀ v ∈ shownAt replies i, ∀ w ∈ shownAt replies j,
        v.key = r.key → w.key = r.key → v.modifiedAt.nanos ≤ w.modifiedAt.nanos) ∧
    ∀ calls calls' : List Call,
      (calls.map fun c => (c.1, c.2.unstamped)) = (calls'.map fun c => (c.1, c.2.unstamped)) →
      (runCalls Store.perform calls empty).1.map Reply.unstamped =
          (runCalls Store.perform calls' empty).1.map Reply.unstamped ∧
        ∀ n, (runCalls Store.perform (calls.take n) empty).2 =
          (runCalls Store.perform (calls'.take n) empty).2 := by
  constructor
  · intro before now r during found replies hcreated hkept
    have hfound : found.Filed := filed_empty.runCalls before
    have hshown (i : Nat) (v : Record) (hv : v ∈ shownAt replies i) (hkey : v.key = r.key) :
        v.createdAt = now ∧ v.modifiedAt.IsLatest (now :: updateTimes r.key (during.take i)) :=
      stamps_of_shown hfound hcreated hkept hv hkey
    refine ⟨fun reply hreply v hv => key_of_shown hfound hreply hv, ?_, ?_⟩
    · intro i v hv hkey
      obtain ⟨hfirst, hlatest⟩ := hshown i v hv hkey
      exact ⟨hfirst, hfirst ▸ hlatest.2 now List.mem_cons_self, hlatest⟩
    · intro i j hij v hv w hw hkv hkw
      apply (hshown i v hv hkv).2.mono (hshown j w hw hkw).2
      apply List.cons_subset_cons
      apply List.map_subset
      apply List.Sublist.subset
      exact (List.take_sublist_take_left hij).filter _
  · intro calls calls' h
    have hall := congrArg (fun cs => runCalls Store.perform cs empty) h
    have hpart (n : Nat) := congrArg (fun cs => runCalls Store.perform (cs.take n) empty) h
    simp only [← List.map_take, runCalls_unstamped, Prod.mk.injEq] at hall hpart
    exact ⟨hall.1, fun n => (hpart n).2⟩

/-- The clock is set back between a creation and an update. -/
theorem stamps_are_readings_acme :
    let r := Record.new "acme" "dev-1"
    let during : List Call := [(⟨3⟩, .update r), (⟨9⟩, .get r.key)]
    let replies := (runCalls Store.perform ((⟨5⟩, .create r) :: during) empty).1
    (∃ a, (empty.create ⟨5⟩ r).1 = .ok a) ∧ ⟨.delete r.key, .ok ()⟩ ∉ replies ∧
      ∀ v ∈ shownAt replies 2, v.key = r.key →
        v.createdAt = ⟨5⟩ ∧ v.modifiedAt.IsLatest [⟨5⟩, ⟨3⟩] := by
  intro r during replies
  have hcreated : ∃ a, (empty.create ⟨5⟩ r).1 = .ok a :=
    ⟨{ r with createdAt := ⟨5⟩, modifiedAt := ⟨5⟩ }, by decide⟩
  have hkept : ⟨.delete r.key, .ok ()⟩ ∉ replies := by
    intro hmem
    have hrequest := List.mem_map_of_mem (f := Sigma.fst) hmem
    rw [requests_runCalls] at hrequest
    exact absurd hrequest (by decide)
  refine ⟨hcreated, hkept, fun v hv hkey => ?_⟩
  obtain ⟨hfirst, _, hlatest⟩ :=
    (stamps_are_readings.1 [] ⟨5⟩ r during hcreated hkept).2.1 2 v hv hkey
  exact ⟨hfirst, hlatest⟩

end Store

end DeviceFleet
