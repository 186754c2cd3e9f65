import DeviceFleet.Fleet.Store.Lemmas
import Mathlib.Algebra.GroupWithZero.Nat
import Mathlib.Data.Finset.Card
import Mathlib.Data.Finset.Prod

/-! The keys a store has records under, how many records that makes, and which shards are empty. -/

namespace DeviceFleet

lemma nodup_of_ascending {names : List String} (h : names.Pairwise (· < ·)) : names.Nodup := by
  apply h.imp
  rintro a _ hlt rfl
  exact String.lt_irrefl a hlt

namespace Table

variable {α : Type}

lemma mem_keys_iff {t : Table α} {k : String} : k ∈ t.keys ↔ (t.get? k).isSome := by
  rw [Option.isSome_iff_exists]
  constructor
  · intro h
    obtain ⟨⟨j, a⟩, he, rfl⟩ := List.mem_map.mp h
    exact ⟨a, mem_entries_iff.mp he⟩
  · rintro ⟨a, h⟩
    exact List.mem_map.mpr ⟨(k, a), mem_entries_iff.mpr h, rfl⟩

lemma ascending_keys (t : Table α) : t.keys.Pairwise (· < ·) := List.pairwise_map.mpr t.ascending

lemma nodup_keys (t : Table α) : t.keys.Nodup := nodup_of_ascending t.ascending_keys

lemma length_keys (t : Table α) : t.keys.length = t.size := by simp [keys, size]

lemma isEmpty_iff {t : Table α} : t.isEmpty = true ↔ ∀ k, t.get? k = none := by
  constructor
  · intro h k
    have hnil : t.entries = [] := List.isEmpty_iff.mp h
    simp [get?, hnil]
  · intro h
    apply List.isEmpty_iff.mpr
    apply List.eq_nil_iff_forall_not_mem.mpr
    rintro ⟨k, a⟩ he
    have hk := h k
    rw [mem_entries_iff.mp he] at hk
    exact Option.some_ne_none a hk

end Table

lemma Key.check_of_not_blank {k : Key} (ht : Text.isBlank k.tenant = false)
    (hn : Text.isBlank k.name = false) : k.check = .ok () := by
  simp only [check, checkTenant, ht, hn]
  rfl

namespace Store

def keys (s : Store) : List Key := s.shards.entries.flatMap fun e => e.2.keys.map (Key.mk e.1)

def keySet (s : Store) : Finset Key := s.keys.toFinset

/-- How many records a store holds, whatever its count says. -/
def recordCount (s : Store) : Nat := (s.shards.values.map Table.size).sum

lemma shard_eq_of_mem {s : Store} {e : String × Table Record} (h : e ∈ s.shards.entries) :
    s.shard e.1 = e.2 := by
  simp [shard, Table.mem_entries_iff.mp h]

lemma mem_keys_iff {s : Store} {k : Key} : k ∈ s.keys ↔ (s.record? k).isSome := by
  obtain ⟨tenant, name⟩ := k
  constructor
  · intro h
    obtain ⟨e, he, hk⟩ := List.mem_flatMap.mp h
    obtain ⟨n, hn, heq⟩ := List.mem_map.mp hk
    obtain ⟨rfl, rfl⟩ := Key.mk.inj heq
    rw [record?, shard_eq_of_mem he]
    exact Table.mem_keys_iff.mp hn
  · intro h
    cases hs : s.shards.get? tenant with
    | none => simp [record?, shard, hs] at h
    | some records =>
      have hn : name ∈ records.keys := Table.mem_keys_iff.mpr (by simpa [record?, shard, hs] using h)
      exact List.mem_flatMap.mpr
        ⟨(tenant, records), Table.mem_entries_iff.mpr hs, List.mem_map.mpr ⟨name, hn, rfl⟩⟩

lemma nodup_keys (s : Store) : s.keys.Nodup := by
  apply List.nodup_flatMap.mpr
  constructor
  · intro e _
    exact e.2.nodup_keys.map fun a b h => (Key.mk.inj h).2
  · apply s.shards.ascending.imp
    intro d e hlt k hd he
    obtain ⟨_, _, rfl⟩ := List.mem_map.mp hd
    obtain ⟨_, _, heq⟩ := List.mem_map.mp he
    exact String.lt_irrefl _ ((Key.mk.inj heq).1 ▸ hlt)

@[simp] lemma mem_keySet {s : Store} {k : Key} : k ∈ s.keySet ↔ (s.record? k).isSome := by
  rw [keySet, List.mem_toFinset, mem_keys_iff]

lemma recordCount_eq_card (s : Store) : s.recordCount = s.keySet.card := by
  rw [keySet, List.toFinset_card_of_nodup s.nodup_keys, keys, List.length_flatMap]
  simp [recordCount, Table.values, Table.length_keys, Function.comp_def]

lemma recordCount_congr {s t : Store} (h : ∀ k, (t.record? k).isSome = (s.record? k).isSome) :
    t.recordCount = s.recordCount := by
  have hkeys : t.keySet = s.keySet := by
    ext k
    simp [h k]
  rw [recordCount_eq_card, recordCount_eq_card, hkeys]

lemma keySet_of_filed {s t : Store} {k : Key} {r : Record}
    (h : ∀ j, t.record? j = if j = k then some r else s.record? j) :
    t.keySet = insert k s.keySet := by
  ext j
  rw [mem_keySet, h j, Finset.mem_insert, mem_keySet]
  by_cases hj : j = k <;> simp [hj]

lemma keySet_of_takenOut {s t : Store} {k : Key}
    (h : ∀ j, t.record? j = if j = k then none else s.record? j) :
    t.keySet = s.keySet.erase k := by
  ext j
  rw [mem_keySet, h j, Finset.mem_erase, mem_keySet]
  by_cases hj : j = k <;> simp [hj]

lemma recordCount_of_filed {s t : Store} {k : Key} {r : Record} (hfree : s.record? k = none)
    (h : ∀ j, t.record? j = if j = k then some r else s.record? j) :
    t.recordCount = s.recordCount + 1 := by
  have hk : k ∉ s.keySet := by simp [hfree]
  rw [recordCount_eq_card, recordCount_eq_card, keySet_of_filed h, Finset.card_insert_of_notMem hk]

lemma recordCount_of_takenOut {s t : Store} {k : Key} {r : Record} (hheld : s.record? k = some r)
    (h : ∀ j, t.record? j = if j = k then none else s.record? j) :
    t.recordCount + 1 = s.recordCount := by
  have hk : k ∈ s.keySet := by simp [hheld]
  rw [recordCount_eq_card, recordCount_eq_card, keySet_of_takenOut h,
    Finset.card_erase_add_one hk]

lemma devices_enroll_of_free {s : Store} {r : Record} (now : Timestamp)
    (h : s.record? r.key = none) : (s.enroll now r).2.devices = s.devices + 1 := by
  rw [enroll_of_free now h]

@[simp] lemma devices_revise (now : Timestamp) (r : Record) (s : Store) :
    (s.revise now r).2.devices = s.devices := by
  cases h : s.record? r.key <;> simp [revise, h]

@[simp] lemma devices_takeOut (k : Key) (s : Store) : (s.takeOut k).2.devices = s.devices := by
  cases h : s.record? k <;> simp [takeOut, h]

@[simp] lemma devices_dropEmpty (tenant : String) (s : Store) :
    (s.dropEmpty tenant).devices = s.devices := by
  simp only [dropEmpty]
  split
  · split <;> rfl
  · rfl

/-- A tenant whose shard is there without a record in it. -/
def Vacant (s : Store) (tenant : String) : Prop :=
  ∃ records, s.shards.get? tenant = some records ∧ records.isEmpty = true

lemma not_vacant_empty (t : String) : ¬ empty.Vacant t := by
  rintro ⟨records, h, _⟩
  simp [empty] at h

lemma not_isEmpty_insert (records : Table Record) (name : String) (r : Record) :
    ¬ (records.insert name r).isEmpty = true := by
  intro h
  simpa using Table.isEmpty_iff.mp h name

lemma vacant_insert {s : Store} {tenant t : String} {records : Table Record} {n : Int}
    (h : Vacant ⟨s.shards.insert tenant records, n⟩ t) :
    (t = tenant ∧ records.isEmpty = true) ∨ (t ≠ tenant ∧ s.Vacant t) := by
  obtain ⟨there, hget, hempty⟩ := h
  rw [Table.get?_insert] at hget
  split at hget
  · next ht => exact Or.inl ⟨ht, Option.some.inj hget ▸ hempty⟩
  · next ht => exact Or.inr ⟨ht, there, hget, hempty⟩

lemma vacant_enroll {s : Store} {now : Timestamp} {r : Record} {t : String}
    (h : (s.enroll now r).2.Vacant t) : s.Vacant t := by
  cases hr : s.record? r.key with
  | some old => rwa [enroll_of_taken now hr] at h
  | none =>
    rw [enroll_of_free now hr] at h
    rcases vacant_insert h with ⟨_, hempty⟩ | ⟨_, hv⟩
    · exact (not_isEmpty_insert _ _ _ hempty).elim
    · exact hv

lemma vacant_revise {s : Store} {now : Timestamp} {r : Record} {t : String}
    (h : (s.revise now r).2.Vacant t) : s.Vacant t := by
  cases hr : s.record? r.key with
  | none => simpa [revise, hr] using h
  | some old =>
    simp only [revise, hr] at h
    rcases vacant_insert h with ⟨_, hempty⟩ | ⟨_, hv⟩
    · exact (not_isEmpty_insert _ _ _ hempty).elim
    · exact hv

lemma vacant_takeOut {s : Store} {k : Key} {t : String} (h : (s.takeOut k).2.Vacant t) :
    s.Vacant t ∨ t = k.tenant := by
  cases hk : s.record? k with
  | none => exact Or.inl (by simpa [takeOut, hk] using h)
  | some r =>
    simp only [takeOut, hk] at h
    rcases vacant_insert h with ⟨ht, _⟩ | ⟨_, hv⟩
    · exact Or.inr ht
    · exact Or.inl hv

lemma vacant_dropEmpty {s : Store} {tenant t : String} (h : (s.dropEmpty tenant).Vacant t) :
    s.Vacant t ∧ t ≠ tenant := by
  cases hs : s.shards.get? tenant with
  | none =>
    simp only [dropEmpty, hs] at h
    refine ⟨h, ?_⟩
    rintro rfl
    obtain ⟨records, hget, _⟩ := h
    simp [hs] at hget
  | some there =>
    cases he : there.isEmpty with
    | false =>
      simp only [dropEmpty, hs, he] at h
      refine ⟨h, ?_⟩
      rintro rfl
      obtain ⟨records, hget, hempty⟩ := h
      obtain rfl := Option.some.inj (hs.symm.trans hget)
      simp [he] at hempty
    | true =>
      obtain ⟨records, hget, hempty⟩ := h
      by_cases ht : t = tenant
      · subst ht
        simp [dropEmpty, hs, he] at hget
      · exact ⟨⟨records, by simpa [dropEmpty, hs, he, ht] using hget, hempty⟩, ht⟩

structure Filed (s : Store) : Prop where
  own : ∀ {k : Key} {r : Record}, s.record? k = some r → r.key = k
  valid : ∀ {k : Key} {r : Record}, s.record? k = some r → k.check = .ok ()

lemma get_of_record? {s : Store} {k : Key} {r : Record} (h : s.Filed) (hr : s.record? k = some r) :
    s.get k = .ok r := by
  simp [get, h.valid hr, hr]

lemma get_of_free {s : Store} {k : Key} (hk : k.check = .ok ()) (hr : s.record? k = none) :
    s.get k = .error (.notFound k) := by
  simp [get, hk, hr]

lemma record?_of_get {s : Store} {k : Key} {r : Record} (h : s.get k = .ok r) :
    s.record? k = some r := by
  cases hk : k.check with
  | error e => simp [get, hk] at h
  | ok u =>
    cases hr : s.record? k with
    | none => simp [get, hk, hr] at h
    | some a => simpa [get, hk, hr] using h

lemma filed_empty : Filed empty := by
  constructor <;> intro k r h <;> simp at h

lemma Filed.enroll {s : Store} {now : Timestamp} {r : Record} (h : s.Filed)
    (hr : r.key.check = .ok ()) : (s.enroll now r).2.Filed := by
  constructor
  · intro k a hk
    rw [record?_enroll] at hk
    split at hk
    · next hc => rw [← Option.some.inj hk, hc.1]; rfl
    · exact h.own hk
  · intro k a hk
    rw [record?_enroll] at hk
    split at hk
    · next hc => exact hc.1 ▸ hr
    · exact h.valid hk

lemma Filed.revise {s : Store} {now : Timestamp} {r : Record} (h : s.Filed) :
    (s.revise now r).2.Filed := by
  cases hr : s.record? r.key with
  | none => simpa [revise_of_free now hr] using h
  | some old =>
    constructor
    · intro k a hk
      rw [record?_revise now r old s k hr] at hk
      split at hk
      · next hc => rw [← Option.some.inj hk, hc, ← h.own hr]; rfl
      · exact h.own hk
    · intro k a hk
      rw [record?_revise now r old s k hr] at hk
      split at hk
      · next hc => exact hc ▸ h.valid hr
      · exact h.valid hk

lemma Filed.takeOut {s : Store} {k : Key} (h : s.Filed) : (s.takeOut k).2.Filed := by
  constructor <;> intro j r hj <;> rw [record?_takeOut] at hj <;> split at hj
  · simp at hj
  · exact h.own hj
  · simp at hj
  · exact h.valid hj

lemma Filed.dropEmpty {s : Store} {tenant : String} (h : s.Filed) : (s.dropEmpty tenant).Filed := by
  constructor <;> intro k r hk <;> rw [record?_dropEmpty] at hk
  · exact h.own hk
  · exact h.valid hk

lemma Filed.discount {s : Store} (h : s.Filed) : s.discount.Filed := ⟨h.own, h.valid⟩

end Store

end DeviceFleet
