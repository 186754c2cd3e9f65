import DeviceFleet.Proofs.Fleet.Contents
import DeviceFleet.Proofs.Text.Transport

/-! What a listing shows of a tenant's shard: the records beyond a name in ascending order, as many
of them as fit on a page, and a token exactly when more are there. -/

namespace DeviceFleet

namespace Table

variable {α : Type}

lemma values_eq_filterMap (t : Table α) : t.values = t.keys.filterMap t.get? := by
  rw [keys, List.filterMap_map, values, ← List.filterMap_eq_map]
  apply List.filterMap_congr
  rintro ⟨k, a⟩ he
  exact (mem_entries_iff.mp he).symm

end Table

lemma effectivePageSize_pos (requested : Nat) : 0 < effectivePageSize requested := by
  rw [effectivePageSize]
  split
  · decide
  · simp only [maxPageSize]
    omega

namespace Store

/-- A tenant's shard as far as it lies beyond a name. -/
def rest (tenant : String) (after : Option String) (s : Store) : Table Record :=
  match after with
  | none => s.shard tenant
  | some n => (s.shard tenant).after n

lemma recordsAfter_eq_values (tenant : String) (after : Option String) (s : Store) :
    s.recordsAfter tenant after = (s.rest tenant after).values := by
  cases after <;> rfl

lemma get?_rest (tenant : String) (after : Option String) (s : Store) (n : String) :
    (s.rest tenant after).get? n = if ∀ a ∈ after, a < n then s.record? ⟨tenant, n⟩ else none := by
  cases after with
  | none => simp [rest, record?]
  | some a =>
    have hiff : (∀ b ∈ some a, b < n) ↔ a < n := by simp only [Option.mem_some_iff, forall_eq']
    rw [rest, Table.get?_after]
    simp only [hiff, record?]

lemma mem_recordsAfter {s : Store} (h : s.Filed) {tenant : String} {after : Option String}
    {r : Record} :
    r ∈ s.recordsAfter tenant after ↔
      s.record? ⟨tenant, r.name⟩ = some r ∧ ∀ a ∈ after, a < r.name := by
  rw [recordsAfter_eq_values, Table.values, List.mem_map]
  constructor
  · rintro ⟨⟨n, a⟩, he, rfl⟩
    have hget := Table.mem_entries_iff.mp he
    rw [get?_rest] at hget
    split at hget
    · next hafter =>
      obtain rfl : a.name = n := congrArg Key.name (h.own hget)
      exact ⟨hget, hafter⟩
    · simp at hget
  · rintro ⟨hr, hafter⟩
    refine ⟨(r.name, r), Table.mem_entries_iff.mpr ?_, rfl⟩
    rw [get?_rest, if_pos hafter, hr]

lemma names_recordsAfter {s : Store} (h : s.Filed) (tenant : String) (after : Option String) :
    (s.recordsAfter tenant after).map Record.name = (s.rest tenant after).keys := by
  rw [recordsAfter_eq_values, Table.values, Table.keys, List.map_map]
  apply List.map_congr_left
  rintro ⟨n, r⟩ he
  have hget := Table.mem_entries_iff.mp he
  rw [get?_rest] at hget
  split at hget
  · exact congrArg Key.name (h.own hget)
  · simp at hget

lemma recordsAfter_ascending {s : Store} (h : s.Filed) (tenant : String) (after : Option String) :
    (s.recordsAfter tenant after).Pairwise fun a b => a.name < b.name := by
  have hkeys := (s.rest tenant after).ascending_keys
  rw [← names_recordsAfter h] at hkeys
  exact List.pairwise_map.mp hkeys

lemma list_eq_page {tenant : String} {after : Option String} (ht : Text.isBlank tenant = false)
    (hafter : ∀ a ∈ after, a ≠ "") (size : Nat) (s : Store) :
    s.list tenant (after.map PageToken.after) size =
      .ok (pageOf (effectivePageSize size) (s.recordsAfter tenant after)) := by
  cases after with
  | none => simp [list, checkTenant, ht]
  | some a => simp [list, checkTenant, ht, PageToken.lastName_after (hafter a rfl)]

/-- A page that ends a listing shows all there is; any other one ends with the name its token
continues after. -/
lemma pageOf_cases {size : Nat} (hsize : 0 < size) {records : List Record}
    (h : records.Pairwise fun a b => a.name < b.name) :
    ((pageOf size records).next = none ∧ (pageOf size records).records = records) ∨
      ∃ last, last ∈ (pageOf size records).records ∧
        (pageOf size records).next = some (PageToken.after last.name) ∧
        (∀ r ∈ (pageOf size records).records, r.name ≤ last.name) ∧
        ∀ r ∈ records, r ∈ (pageOf size records).records ∨ last.name < r.name := by
  by_cases hlen : records.length > size
  · right
    have hne : records.take size ≠ [] := by
      rw [ne_eq, List.take_eq_nil_iff]
      rintro (rfl | rfl)
      · omega
      · simp at hlen
    let last := (records.take size).getLast hne
    have hsplit := h
    rw [← List.take_append_drop size records, List.pairwise_append] at hsplit
    obtain ⟨hshown, _, hbeyond⟩ := hsplit
    refine ⟨last, List.getLast_mem hne, ?_, ?_, ?_⟩
    · simp [pageOf, hlen, List.getLast?_eq_getLast_of_ne_nil hne, last]
    · intro r hr
      change r ∈ records.take size at hr
      rw [← List.dropLast_append_getLast hne] at hr hshown
      rcases List.mem_append.mp hr with hr | hr
      · exact Std.le_of_lt ((List.pairwise_append.mp hshown).2.2 r hr last (List.mem_singleton_self _))
      · have hname : r.name = last.name := congrArg Record.name (List.mem_singleton.mp hr)
        exact hname ▸ String.le_refl r.name
    · intro r hr
      rw [← List.take_append_drop size records] at hr
      rcases List.mem_append.mp hr with hr | hr
      · exact Or.inl hr
      · exact Or.inr (hbeyond last (List.getLast_mem hne) r hr)
  · left
    refine ⟨by simp [pageOf, hlen], ?_⟩
    exact List.take_of_length_le (by omega)

lemma pageOf_sublist (size : Nat) (records : List Record) :
    (pageOf size records).records.Sublist records := List.take_sublist size records

end Store

end DeviceFleet
