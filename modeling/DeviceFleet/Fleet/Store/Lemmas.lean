import DeviceFleet.Fleet.Store
import DeviceFleet.Table.Lemmas

/-!
What each step of a store does to the records it gives: a creation adds one, a revision changes one,
a deletion takes one away, and all others stay as they are. Dropping an empty shard and counting
change no record.
-/

namespace DeviceFleet.Store

@[simp] theorem record?_empty (k : Key) : empty.record? k = none := rfl

theorem shard_insert (s : Store) (tenant t : String) (records : Table Record) (n : Int) :
    shard ⟨s.shards.insert tenant records, n⟩ t = if t = tenant then records else s.shard t := by
  simp only [shard, Table.get?_insert]
  split <;> rfl

theorem record?_insert (s : Store) (k j : Key) (r : Record) (n : Int) :
    record? ⟨s.shards.insert k.tenant ((s.shard k.tenant).insert k.name r), n⟩ j =
      if j = k then some r else s.record? j := by
  obtain ⟨tenant, name⟩ := k
  obtain ⟨t, m⟩ := j
  simp only [record?, shard_insert, Key.mk.injEq]
  by_cases ht : t = tenant
  · subst ht
    simp
  · simp [ht]

theorem record?_erase (s : Store) (k j : Key) (n : Int) :
    record? ⟨s.shards.insert k.tenant ((s.shard k.tenant).erase k.name), n⟩ j =
      if j = k then none else s.record? j := by
  obtain ⟨tenant, name⟩ := k
  obtain ⟨t, m⟩ := j
  simp only [record?, shard_insert, Key.mk.injEq]
  by_cases ht : t = tenant
  · subst ht
    simp
  · simp [ht]

@[simp] theorem shard_openShard (tenant t : String) (s : Store) :
    (s.openShard tenant).shard t = s.shard t := by
  rw [openShard, shard_insert]
  split
  · next h => rw [h]
  · rfl

@[simp] theorem record?_openShard (tenant : String) (s : Store) (k : Key) :
    (s.openShard tenant).record? k = s.record? k := by
  simp [record?]

/-- A tenant with a record has a shard already. -/
theorem openShard_of_held {s : Store} {k : Key} {r : Record} (h : s.record? k = some r) :
    s.openShard k.tenant = s := by
  cases hs : s.shards.get? k.tenant with
  | none => simp [record?, shard, hs] at h
  | some records =>
    have hsame : s.shards.insert k.tenant (s.shard k.tenant) = s.shards := by
      apply Table.ext_get?
      intro t
      rw [Table.get?_insert]
      split
      · next ht => rw [ht, hs, shard, hs, Option.getD_some]
      · rfl
    rw [openShard, hsame]

theorem enroll_of_free {s : Store} {r : Record} (now : Timestamp) (h : s.record? r.key = none) :
    s.enroll now r =
      (.ok { r with createdAt := now, modifiedAt := now },
        ⟨s.shards.insert r.tenant
          ((s.shard r.tenant).insert r.name { r with createdAt := now, modifiedAt := now }),
          s.devices + 1⟩) := by
  have honce (records : Table Record) :
      (s.openShard r.tenant).shards.insert r.tenant records = s.shards.insert r.tenant records := by
    apply Table.ext_get?
    intro t
    simp only [openShard, Table.get?_insert]
    split <;> rfl
  simp only [enroll, record?_openShard, h, shard_openShard, honce]
  rfl

theorem enroll_of_taken {s : Store} {r old : Record} (now : Timestamp)
    (h : s.record? r.key = some old) :
    s.enroll now r = (.error (.alreadyExists r.key), s) := by
  have hopen : s.openShard r.tenant = s := openShard_of_held h
  simp only [enroll, hopen, h]

theorem record?_enroll (now : Timestamp) (r : Record) (s : Store) (k : Key) :
    (s.enroll now r).2.record? k =
      if k = r.key ∧ s.record? r.key = none then some { r with createdAt := now, modifiedAt := now }
      else s.record? k := by
  cases h : s.record? r.key with
  | some old => simp [enroll_of_taken now h]
  | none =>
    rw [enroll_of_free now h]
    simp only [and_true]
    exact record?_insert s r.key k _ (s.devices + 1)

theorem record?_takeOut (k j : Key) (s : Store) :
    (s.takeOut k).2.record? j = if j = k then none else s.record? j := by
  cases h : s.record? k with
  | some r => simpa [takeOut, h] using record?_erase s k j s.devices
  | none =>
    by_cases hj : j = k
    · subst hj
      simp [takeOut, h]
    · simp [takeOut, h, hj]

@[simp] theorem shard_dropEmpty (tenant t : String) (s : Store) :
    (s.dropEmpty tenant).shard t = s.shard t := by
  cases h : s.shards.get? tenant with
  | none => simp [dropEmpty, h]
  | some records =>
    cases he : records.isEmpty with
    | false => simp [dropEmpty, h, he]
    | true =>
      have hempty : records = ∅ := by
        obtain ⟨entries, hs⟩ := records
        cases entries with
        | nil => rfl
        | cons e r => simp [Table.isEmpty] at he
      by_cases ht : t = tenant
      · subst ht
        simp [dropEmpty, shard, h, he, hempty.symm]
      · simp [dropEmpty, shard, h, he, ht]

@[simp] theorem record?_dropEmpty (tenant : String) (s : Store) (k : Key) :
    (s.dropEmpty tenant).record? k = s.record? k := by
  simp [record?]

@[simp] theorem record?_discount (s : Store) (k : Key) : s.discount.record? k = s.record? k := rfl

theorem record?_revise (now : Timestamp) (r old : Record) (s : Store) (k : Key)
    (h : s.record? r.key = some old) :
    (s.revise now r).2.record? k =
      if k = r.key then
        some { old with
          tags := r.tags
          controlPlane := r.controlPlane
          modifiedAt := Timestamp.latest now old.modifiedAt }
      else s.record? k := by
  simp only [revise, h]
  exact record?_insert s r.key k _ s.devices

theorem revise_of_free {s : Store} {r : Record} (now : Timestamp) (h : s.record? r.key = none) :
    s.revise now r = (.error (.notFound r.key), s) := by
  simp [revise, h]

/-- A deletion that succeeds takes its record away, and no other. -/
theorem record?_delete {k : Key} {s : Store} (h : (s.delete k).1 = .ok ()) (j : Key) :
    (s.delete k).2.record? j = if j = k then none else s.record? j := by
  have ht := record?_takeOut k j s
  cases hk : k.check with
  | error e => simp [delete, hk] at h
  | ok u =>
    cases hs : s.takeOut k with
    | mk taken after =>
      cases taken with
      | false => simp [delete, hk, hs] at h
      | true => simpa [delete, hk, hs] using ht

end DeviceFleet.Store
