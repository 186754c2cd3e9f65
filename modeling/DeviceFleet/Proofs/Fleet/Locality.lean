import DeviceFleet.Proofs.Fleet.Ledger

/-! A call reads and changes nothing of a store but the record of its key, or for a listing the
records of its tenant. So calls of other tenants and of other keys cannot be noticed. -/

namespace DeviceFleet

namespace Request

/-- Whether a request is about one key; a listing is about none. -/
def isAt (k : Key) (q : Request) : Bool := q.operation ≠ .list ∧ q.key = k

/-- What a call leaves under its key, where it has found a record or none. -/
def leaves (now : Timestamp) (q : Request) (held : Option Record) : Option Record :=
  match q, q.key.check, held with
  | .create r, .ok (), none => some { r with createdAt := now, modifiedAt := now }
  | .update r, .ok (), some old =>
    some { old with
      tags := r.tags
      controlPlane := r.controlPlane
      modifiedAt := Timestamp.latest now old.modifiedAt }
  | .delete _, .ok (), some _ => none
  | _, _, held => held

end Request

namespace Store

variable {s t : Store} {k : Key} {tenant : String}

lemma record?_create (now : Timestamp) (r : Record) (s : Store) (k : Key) :
    (s.create now r).2.record? k =
      if k = r.key then (Request.create r).leaves now (s.record? k) else s.record? k := by
  cases hr : r.key.check with
  | error e => simp [create, Request.leaves, Request.key, hr]
  | ok u =>
    simp only [create, hr, record?_enroll]
    by_cases hk : k = r.key
    · subst hk
      cases hheld : s.record? r.key <;> simp [Request.leaves, Request.key, hr]
    · simp [hk]

lemma record?_update (now : Timestamp) (r : Record) (s : Store) (k : Key) :
    (s.update now r).2.record? k =
      if k = r.key then (Request.update r).leaves now (s.record? k) else s.record? k := by
  cases hr : r.key.check with
  | error e => simp [update, Request.leaves, Request.key, hr]
  | ok u =>
    cases hheld : s.record? r.key with
    | none =>
      simp only [update, hr, revise_of_free now hheld]
      by_cases hk : k = r.key
      · simp [hk, hheld, Request.leaves]
      · simp [hk]
    | some old =>
      simp only [update, hr, record?_revise now r old s k hheld]
      by_cases hk : k = r.key
      · simp [hk, hheld, Request.leaves, Request.key, hr]
      · simp [hk]

lemma record?_delete_eq (now : Timestamp) (j : Key) (s : Store) (k : Key) :
    (s.delete j).2.record? k =
      if k = j then (Request.delete j).leaves now (s.record? k) else s.record? k := by
  cases hj : j.check with
  | error e => simp [delete, Request.leaves, Request.key, hj]
  | ok u =>
    cases hheld : s.record? j with
    | none =>
      simp only [delete, hj, takeOut, hheld]
      by_cases hk : k = j
      · simp [hk, hheld, Request.leaves]
      · simp [hk]
    | some old =>
      have hok : (s.delete j).1 = .ok () := by simp [delete, hj, takeOut, hheld]
      rw [record?_delete hok]
      by_cases hk : k = j
      · simp [hk, hheld, Request.leaves, Request.key, hj]
      · simp [hk]

theorem record?_perform (now : Timestamp) (q : Request) (s : Store) (k : Key) :
    (s.perform now q).2.record? k =
      if k = q.key then q.leaves now (s.record? k) else s.record? k := by
  cases q with
  | create r => exact record?_create now r s k
  | get j => exact (ite_self _).symm
  | update r => exact record?_update now r s k
  | delete j => exact record?_delete_eq now j s k
  | list tenant token size => exact (ite_self _).symm

lemma reply_congr (now : Timestamp) {q : Request} (hq : q.operation ≠ .list)
    (h : s.record? q.key = t.record? q.key) : (s.perform now q).1 = (t.perform now q).1 := by
  cases q with
  | create r =>
    change s.record? r.key = t.record? r.key at h
    cases hr : r.key.check with
    | error e => simp only [perform, create, hr]
    | ok u =>
      cases hheld : s.record? r.key with
      | none =>
        rw [hheld] at h
        simp only [perform, create, hr, enroll_of_free now hheld, enroll_of_free now h.symm]
      | some old =>
        rw [hheld] at h
        simp only [perform, create, hr, enroll_of_taken now hheld, enroll_of_taken now h.symm]
  | get k =>
    change s.record? k = t.record? k at h
    simp only [perform, get, h]
  | update r =>
    change s.record? r.key = t.record? r.key at h
    cases hr : r.key.check with
    | error e => simp only [perform, update, hr]
    | ok u => cases hheld : t.record? r.key <;> simp only [perform, update, revise, hr, h, hheld]
  | delete k =>
    change s.record? k = t.record? k at h
    cases hk : k.check with
    | error e => simp only [perform, delete, hk]
    | ok u => cases hheld : t.record? k <;> simp only [perform, delete, takeOut, hk, h, hheld]
  | list tenant token size => exact absurd rfl hq

lemma shard_congr (h : ∀ n, s.record? ⟨tenant, n⟩ = t.record? ⟨tenant, n⟩) :
    s.shard tenant = t.shard tenant := Table.ext_get? h

lemma list_congr (h : s.shard tenant = t.shard tenant) (token : Option PageToken) (size : Nat) :
    s.list tenant token size = t.list tenant token size := by
  have hrecords (after : Option String) :
      s.recordsAfter tenant after = t.recordsAfter tenant after := by
    cases after <;> simp only [recordsAfter, h]
  simp only [list, hrecords]

/-- The stores give the same records under some keys. -/
def AgreeOn (keys : Key → Prop) (s t : Store) : Prop := ∀ k, keys k → s.record? k = t.record? k

section Agree

variable {keys : Key → Prop}

lemma AgreeOn.perform (h : s.AgreeOn keys t) (now : Timestamp) (q : Request) :
    (s.perform now q).2.AgreeOn keys (t.perform now q).2 := by
  intro k hk
  rw [record?_perform, record?_perform, h k hk]

lemma AgreeOn.perform_left (h : s.AgreeOn keys t) (now : Timestamp) {q : Request}
    (hq : ¬ keys q.key) : (s.perform now q).2.AgreeOn keys t := by
  intro k hk
  have hne : k ≠ q.key := fun he => hq (he ▸ hk)
  rw [record?_perform, if_neg hne, h k hk]

lemma AgreeOn.reply_eq (h : s.AgreeOn (fun k => k.tenant = tenant) t) (now : Timestamp)
    {q : Request} (hq : q.key.tenant = tenant) : (s.perform now q).1 = (t.perform now q).1 := by
  cases q with
  | list _ token size =>
    obtain rfl := hq
    exact list_congr (shard_congr fun n => h _ rfl) token size
  | create r => exact reply_congr now nofun (h _ hq)
  | get k => exact reply_congr now nofun (h _ hq)
  | update r => exact reply_congr now nofun (h _ hq)
  | delete k => exact reply_congr now nofun (h _ hq)

end Agree

lemma get?_shards (h : ¬ s.Vacant tenant) :
    s.shards.get? tenant =
      if (s.shard tenant).isEmpty then none else some (s.shard tenant) := by
  cases hs : s.shards.get? tenant with
  | none =>
    have hempty : s.shard tenant = ∅ := by rw [shard, hs, Option.getD_none]
    rw [hempty]
    rfl
  | some records =>
    have hsome : ¬ records.isEmpty = true := fun he => h ⟨records, hs, he⟩
    simp [shard, hs, hsome]

lemma Represents.ext {m n : Ledger} (hs : Represents s m) (ht : Represents t n)
    (h : ∀ k, s.record? k = t.record? k) : s = t := by
  have hledger : m = n := by
    apply Finmap.ext_lookup
    intro k
    rw [← hs.records, ← ht.records, h]
  have hshards : s.shards = t.shards := by
    apply Table.ext_get?
    intro tenant
    have hshard : s.shard tenant = t.shard tenant := shard_congr fun n => h ⟨tenant, n⟩
    rw [get?_shards (hs.tidy tenant), get?_shards (ht.tidy tenant), hshard]
  have hdevices : s.devices = t.devices := by rw [hs.counted, ht.counted, hledger]
  obtain ⟨shards, devices⟩ := s
  exact congrArg₂ Store.mk hshards hdevices

lemma reply_perform_of_ne (now now' : Timestamp) {q q' : Request} (hq : q.operation ≠ .list)
    (hkey : q.key ≠ q'.key) (s : Store) :
    ((s.perform now' q').2.perform now q).1 = (s.perform now q).1 := by
  apply reply_congr now hq
  rw [record?_perform, if_neg hkey]

lemma record?_perform_comm (now now' : Timestamp) {q q' : Request} (hkey : q.key ≠ q'.key)
    (s : Store) (k : Key) :
    ((s.perform now q).2.perform now' q').2.record? k =
      ((s.perform now' q').2.perform now q).2.record? k := by
  simp only [record?_perform]
  by_cases hq : k = q.key
  · subst hq
    simp only [if_neg hkey]
  · simp only [if_neg hq]

lemma perform_comm {m : Ledger} (h : Represents s m) (now now' : Timestamp) {q q' : Request}
    (hkey : q.key ≠ q'.key) :
    ((s.perform now q).2.perform now' q').2 = ((s.perform now' q').2.perform now q).2 := by
  have hfirst := ((h.perform now q).2.perform now' q').2
  have hsecond := ((h.perform now' q').2.perform now q).2
  exact hfirst.ext hsecond (record?_perform_comm now now' hkey s)

lemma represents_runCalls (calls : List Call) :
    Represents (runCalls Store.perform calls empty).2 (runCalls Ledger.perform calls ∅).2 :=
  (runCalls_agree (R := Represents) (fun now _ _ q h => h.perform now q) calls represents_empty).2

lemma runCalls_of_tenant (calls : List Call) (tenant : String) :
    let ran := runCalls Store.perform calls empty
    let alone := runCalls Store.perform (calls.filter fun c => c.2.key.tenant = tenant) empty
    ran.1.filter (fun r => r.1.key.tenant = tenant) = alone.1 ∧
      ran.2.shard tenant = alone.2.shard tenant := by
  intro ran alone
  let own (q : Request) : Bool := q.key.tenant = tenant
  let Same := AgreeOn fun k => k.tenant = tenant
  have hkept (now : Timestamp) (s t : Store) (q : Request) (_ : own q = true) (h : Same s t) :
      Same (s.perform now q).2 (t.perform now q).2 := h.perform now q
  have hleft (now : Timestamp) (s t : Store) (q : Request) (hq : own q = false) (h : Same s t) :
      Same (s.perform now q).2 t := h.perform_left now (of_decide_eq_false hq)
  have hshown (now : Timestamp) (s t : Store) (q : Request) (hq : own q = true) (h : Same s t) :
      (s.perform now q).1 = (t.perform now q).1 := h.reply_eq now (of_decide_eq_true hq)
  obtain ⟨hreplies, hrecords⟩ := runCalls_filter own own Same hkept hleft hshown (fun _ hq => hq)
    calls (fun _ _ => rfl : Same empty empty)
  have hall : alone.1.filter (fun r => own r.1) = alone.1 := by
    apply List.filter_eq_self.mpr
    intro r hr
    have hrequest : r.1 ∈ (calls.filter fun c => own c.2).map Prod.snd := by
      rw [← requests_runCalls]
      exact List.mem_map_of_mem hr
    obtain ⟨c, hc, hrc⟩ := List.mem_map.mp hrequest
    exact hrc ▸ (List.mem_filter.mp hc).2
  exact ⟨hreplies.trans hall, shard_congr fun n => hrecords ⟨tenant, n⟩ rfl⟩

lemma runCalls_of_key (calls : List Call) (k : Key) :
    let ran := runCalls Store.perform calls empty
    let alone := runCalls Store.perform
      (calls.filter fun c => c.2.operation = .list ∨ c.2.key = k) empty
    ran.1.filter (fun r => r.1.isAt k) = alone.1.filter (fun r => r.1.isAt k) ∧
      ran.2.record? k = alone.2.record? k := by
  intro ran alone
  let keeps (q : Request) : Bool := q.operation = .list ∨ q.key = k
  let Same := AgreeOn fun j => j = k
  have hkept (now : Timestamp) (s t : Store) (q : Request) (_ : keeps q = true) (h : Same s t) :
      Same (s.perform now q).2 (t.perform now q).2 := h.perform now q
  have hleft (now : Timestamp) (s t : Store) (q : Request) (hq : keeps q = false) (h : Same s t) :
      Same (s.perform now q).2 t := h.perform_left now fun hk => of_decide_eq_false hq (Or.inr hk)
  have hshown (now : Timestamp) (s t : Store) (q : Request) (hq : q.isAt k = true) (h : Same s t) :
      (s.perform now q).1 = (t.perform now q).1 := by
    obtain ⟨hlist, hk⟩ := of_decide_eq_true hq
    exact reply_congr now hlist (h _ hk)
  have hkeeps (q : Request) (hq : q.isAt k = true) : keeps q = true :=
    decide_eq_true (Or.inr (of_decide_eq_true hq).2)
  obtain ⟨hreplies, hrecords⟩ := runCalls_filter keeps (Request.isAt k) Same hkept hleft hshown
    hkeeps calls (fun _ _ => rfl : Same empty empty)
  exact ⟨hreplies, hrecords k rfl⟩

/-- No call of another tenant changes what the calls of a tenant give or leave, and no call about
another key what the calls about a key do; so calls about different keys commute. -/
theorem calls_isolated (calls : List Call) :
    let ran := runCalls Store.perform calls empty
    (∀ tenant,
      let alone := runCalls Store.perform (calls.filter fun c => c.2.key.tenant = tenant) empty
      ran.1.filter (fun r => r.1.key.tenant = tenant) = alone.1 ∧
        ran.2.shard tenant = alone.2.shard tenant) ∧
    (∀ k,
      let alone := runCalls Store.perform
        (calls.filter fun c => c.2.operation = .list ∨ c.2.key = k) empty
      ran.1.filter (fun r => r.1.isAt k) = alone.1.filter (fun r => r.1.isAt k) ∧
        ran.2.record? k = alone.2.record? k) ∧
    ∀ now q now' q', q.operation ≠ .list → q'.operation ≠ .list → q.key ≠ q'.key →
      (ran.2.perform now q).1 = ((ran.2.perform now' q').2.perform now q).1 ∧
        ((ran.2.perform now q).2.perform now' q').1 = (ran.2.perform now' q').1 ∧
        ((ran.2.perform now q).2.perform now' q').2 =
          ((ran.2.perform now' q').2.perform now q).2 := by
  intro ran
  refine ⟨runCalls_of_tenant calls, runCalls_of_key calls,
    fun now q now' q' hq hq' hkey => ⟨?_, ?_, ?_⟩⟩
  · exact (reply_perform_of_ne now now' hq hkey ran.2).symm
  · exact reply_perform_of_ne now' now hq' hkey.symm ran.2
  · exact perform_comm (represents_runCalls calls) now now' hkey

end Store

end DeviceFleet
