import DeviceFleet.Proofs.Fleet.Calls
import DeviceFleet.Proofs.Fleet.Listing
import DeviceFleet.Proofs.Fleet.Reference

/-! A store that shards its records by tenant and counts them beside cannot be told from the ledger,
which is one finite map from keys to records. -/

namespace DeviceFleet

/-- A store that holds what a ledger holds: its records, each under its own key, no shard without
any, and their number. -/
structure Store.Represents (s : Store) (m : Ledger) : Prop where
  records : ∀ k, s.record? k = m.lookup k
  filed : s.Filed
  tidy : ∀ tenant, ¬ s.Vacant tenant
  counted : s.devices = m.keys.card

namespace Store

variable {s : Store} {m : Ledger}

lemma check_eq_refusal (k : Key) :
    k.check = match Ledger.refusal? k with
      | some e => .error e
      | none => .ok () := by
  by_cases ht : Text.isBlank k.tenant <;> by_cases hn : Text.isBlank k.name <;>
    simp [Key.check, checkTenant, Ledger.refusal?, ht, hn, bind, Except.bind]

lemma represents_empty : Represents empty ∅ := ⟨fun _ => rfl, filed_empty, not_vacant_empty, rfl⟩

lemma Represents.keySet_eq (h : Represents s m) : s.keySet = m.keys := by
  ext k
  rw [mem_keySet, h.records, Finmap.lookup_isSome, Finmap.mem_keys]

lemma Represents.devices_eq (h : Represents s m) : s.devices = s.recordCount := by
  rw [h.counted, recordCount_eq_card, h.keySet_eq]

lemma represents_of_count (hrecords : ∀ k, s.record? k = m.lookup k) (hfiled : s.Filed)
    (htidy : ∀ tenant, ¬ s.Vacant tenant) (hcount : s.devices = s.recordCount) : Represents s m := by
  refine ⟨hrecords, hfiled, htidy, ?_⟩
  have hkeys : s.keySet = m.keys := by
    ext k
    rw [mem_keySet, hrecords, Finmap.lookup_isSome, Finmap.mem_keys]
  rw [hcount, recordCount_eq_card, hkeys]

lemma Represents.create (h : Represents s m) (now : Timestamp) (r : Record) :
    (s.create now r).1 = (m.create now r).1 ∧
      Represents (s.create now r).2 (m.create now r).2 := by
  cases hk : Ledger.refusal? r.key with
  | some e => simpa [Store.create, Ledger.create, check_eq_refusal, hk] using h
  | none =>
    cases hr : m.lookup r.key with
    | some old =>
      have hs : s.record? r.key = some old := (h.records _).trans hr
      simpa [Store.create, Ledger.create, check_eq_refusal, hk, hr, enroll_of_taken now hs] using h
    | none =>
      have hs : s.record? r.key = none := (h.records _).trans hr
      have hafter (k : Key) : (s.enroll now r).2.record? k =
          if k = r.key then some { r with createdAt := now, modifiedAt := now } else s.record? k := by
        simp [record?_enroll, hs]
      simp only [Store.create, Ledger.create, check_eq_refusal, hk, hr]
      have hcheck : r.key.check = .ok () := by rw [check_eq_refusal, hk]
      refine ⟨congrArg Prod.fst (enroll_of_free now hs),
        represents_of_count ?_ (h.filed.enroll hcheck) ?_ ?_⟩
      · intro k
        rw [hafter, Ledger.lookup_insert_eq_ite, h.records]
      · intro t ht
        exact h.tidy t (vacant_enroll ht)
      · have hcount := recordCount_of_filed hs hafter
        rw [devices_enroll_of_free now hs, h.devices_eq, hcount]
        rfl

lemma Represents.get (h : Represents s m) (k : Key) : s.get k = m.get k := by
  cases hk : Ledger.refusal? k <;> cases hr : m.lookup k <;>
    simp [Store.get, Ledger.get, check_eq_refusal, hk, h.records, hr]

lemma Represents.update (h : Represents s m) (now : Timestamp) (r : Record) :
    (s.update now r).1 = (m.update now r).1 ∧
      Represents (s.update now r).2 (m.update now r).2 := by
  cases hk : Ledger.refusal? r.key with
  | some e => simpa [Store.update, Ledger.update, check_eq_refusal, hk] using h
  | none =>
    cases hr : m.lookup r.key with
    | none =>
      have hs : s.record? r.key = none := (h.records _).trans hr
      simpa [Store.update, Ledger.update, check_eq_refusal, hk, hr, revise_of_free now hs] using h
    | some old =>
      have hs : s.record? r.key = some old := (h.records _).trans hr
      have hafter := record?_revise now r old s (h := hs)
      simp only [Store.update, Ledger.update, check_eq_refusal, hk, hr]
      refine ⟨by simp [revise, hs], represents_of_count ?_ h.filed.revise ?_ ?_⟩
      · intro k
        rw [hafter, Ledger.lookup_insert_eq_ite, h.records]
      · intro t ht
        exact h.tidy t (vacant_revise ht)
      · have hsame (k : Key) : ((s.revise now r).2.record? k).isSome = (s.record? k).isSome := by
          rw [hafter]
          split
          · next hkey => simp [hkey, hs]
          · rfl
        rw [recordCount_congr hsame, ← h.devices_eq, devices_revise]

lemma Represents.delete (h : Represents s m) (k : Key) :
    (s.delete k).1 = (m.delete k).1 ∧ Represents (s.delete k).2 (m.delete k).2 := by
  cases hk : Ledger.refusal? k with
  | some e => simpa [Store.delete, Ledger.delete, check_eq_refusal, hk] using h
  | none =>
    cases hr : m.lookup k with
    | none =>
      have hs : s.record? k = none := (h.records _).trans hr
      simpa [Store.delete, Ledger.delete, check_eq_refusal, hk, hr, takeOut, hs] using h
    | some old =>
      have hs : s.record? k = some old := (h.records _).trans hr
      have htook : s.takeOut k = (true, (s.takeOut k).2) := by simp [takeOut, hs]
      have hafter (j : Key) :
          (discount (dropEmpty k.tenant (s.takeOut k).2)).record? j =
            if j = k then none else s.record? j := by
        rw [record?_discount, record?_dropEmpty, record?_takeOut]
      have hdelete : s.delete k = (.ok (), discount (dropEmpty k.tenant (s.takeOut k).2)) := by
        simp only [Store.delete, check_eq_refusal, hk]
        rw [htook]
      rw [hdelete]
      simp only [Ledger.delete, hk, hr]
      refine ⟨trivial, represents_of_count ?_ h.filed.takeOut.dropEmpty.discount ?_ ?_⟩
      · intro j
        rw [hafter, Ledger.lookup_erase_eq_ite, h.records]
      · intro t ht
        obtain ⟨hv, hne⟩ := vacant_dropEmpty (s := (s.takeOut k).2) ht
        exact (vacant_takeOut hv).elim (h.tidy t) hne
      · have hcount := recordCount_of_takenOut hs hafter
        have hdevices : (discount (dropEmpty k.tenant (s.takeOut k).2)).devices = s.devices - 1 := by
          rw [discount, devices_dropEmpty, devices_takeOut]
        rw [hdevices, h.devices_eq]
        omega

lemma keys_eq_sort {α : Type} {t : Table α} {names : Finset String}
    (h : ∀ n, n ∈ names ↔ (t.get? n).isSome) : names.sort = t.keys := by
  have hset : t.keys.toFinset = names := by
    ext n
    rw [List.mem_toFinset, Table.mem_keys_iff, h]
  rw [← hset]
  exact (List.toFinset_sort _ t.nodup_keys).mpr (t.ascending_keys.imp le_of_lt)

lemma Represents.mem_names (h : Represents s m) (tenant n : String) :
    n ∈ m.names tenant ↔ (s.record? ⟨tenant, n⟩).isSome := by
  simp only [Ledger.names, Finset.mem_image, Finset.mem_filter, ← h.keySet_eq, mem_keySet]
  constructor
  · rintro ⟨⟨t, _⟩, ⟨hk, rfl⟩, rfl⟩
    exact hk
  · intro hk
    exact ⟨⟨tenant, n⟩, ⟨hk, rfl⟩, rfl⟩

lemma Represents.namesAfter (h : Represents s m) (tenant : String) (after : Option String) :
    m.namesAfter tenant after = (s.recordsAfter tenant after).map Record.name := by
  rw [names_recordsAfter h.filed]
  apply keys_eq_sort
  intro n
  rw [Finset.mem_filter, h.mem_names, get?_rest]
  split
  · next hn => exact and_iff_left hn
  · next hn => simp only [hn, and_false, Option.isSome_none, Bool.false_eq_true]

lemma Represents.lookup_of_mem (h : Represents s m) {tenant : String} {after : Option String}
    {r : Record} (hr : r ∈ s.recordsAfter tenant after) : m.lookup ⟨tenant, r.name⟩ = some r := by
  rw [← h.records]
  exact ((mem_recordsAfter h.filed).mp hr).1

lemma Represents.page (h : Represents s m) {limit : Nat} (hlimit : 0 < limit) (tenant : String)
    (after : Option String) :
    m.page limit tenant after = pageOf limit (s.recordsAfter tenant after) := by
  have hshown : ((s.recordsAfter tenant after).take limit).filterMap
      (fun r => m.lookup ⟨tenant, r.name⟩) = (s.recordsAfter tenant after).take limit := by
    rw [List.filterMap_congr fun r hr => h.lookup_of_mem (List.mem_of_mem_take hr),
      List.filterMap_some]
  rw [Ledger.page, pageOf, h.namesAfter, List.length_map]
  congr 1
  · rw [← List.map_take, List.filterMap_map]
    exact hshown
  · split
    · next hmore =>
      have hlast : limit - 1 < (s.recordsAfter tenant after).length := by omega
      rw [List.getLast?_take, if_neg (by omega), List.getElem?_map,
        List.getElem?_eq_getElem hlast]
      exact congrArg some (Ledger.tokenOf_eq _)
    · rfl

lemma Represents.list (h : Represents s m) (tenant : String) (token : Option PageToken)
    (size : Nat) : s.list tenant token size = m.list tenant token size := by
  have hpage := h.page (Ledger.pageLimit_pos size) tenant
  rw [Ledger.pageLimit_eq] at hpage
  cases hb : Text.isBlank tenant with
  | true => simp [Store.list, Ledger.list, checkTenant, hb]
  | false =>
    cases token with
    | none => simp [Store.list, Ledger.list, checkTenant, hb, Ledger.pageLimit_eq, hpage]
    | some t =>
      cases ht : t.lastName? <;>
        simp [Store.list, Ledger.list, checkTenant, hb, PageToken.lastName, Ledger.nameOf?_eq, ht,
          Ledger.pageLimit_eq, hpage]

theorem Represents.perform (h : Represents s m) (now : Timestamp) (q : Request) :
    (s.perform now q).1 = (m.perform now q).1 ∧
      Represents (s.perform now q).2 (m.perform now q).2 := by
  cases q with
  | create r => exact h.create now r
  | get k => exact ⟨h.get k, h⟩
  | update r => exact h.update now r
  | delete k => exact h.delete k
  | list tenant token size => exact ⟨h.list tenant token size, h⟩

lemma tenantCount_eq_card (h : Represents s m) :
    s.tenantCount = (m.keys.image Key.tenant).card := by
  have htenants : s.shards.keys.toFinset = m.keys.image Key.tenant := by
    ext t
    rw [List.mem_toFinset, Table.mem_keys_iff, Finset.mem_image, ← h.keySet_eq]
    constructor
    · intro ht
      obtain ⟨records, hget⟩ := Option.isSome_iff_exists.mp ht
      have hne : ¬ records.isEmpty = true := fun he => h.tidy t ⟨records, hget, he⟩
      rw [Table.isEmpty_iff, not_forall] at hne
      obtain ⟨n, hn⟩ := hne
      refine ⟨⟨t, n⟩, ?_, rfl⟩
      rw [mem_keySet, record?, shard, hget]
      exact Option.isSome_iff_ne_none.mpr hn
    · rintro ⟨⟨t, n⟩, hk, rfl⟩
      cases hget : s.shards.get? t with
      | none => simp [record?, shard, hget] at hk
      | some records => rfl
  rw [← htenants, List.toFinset_card_of_nodup s.shards.nodup_keys, Table.length_keys, tenantCount]

/-- A call that is refused leaves shards, records and count as they were. -/
lemma perform_of_error {now : Timestamp} {q : Request} {e : StoreError}
    (h : (s.perform now q).1 = .error e) : (s.perform now q).2 = s := by
  cases q with
  | create r =>
    cases hk : r.key.check with
    | error e => simp [Store.perform, Store.create, hk]
    | ok u =>
      cases hr : s.record? r.key with
      | some old => simp [Store.perform, Store.create, hk, enroll_of_taken now hr]
      | none => simp [Store.perform, Store.create, hk, enroll_of_free now hr] at h
  | get k => rfl
  | update r =>
    cases hk : r.key.check <;> cases hr : s.record? r.key <;>
      simp_all [Store.perform, Store.update, revise]
  | delete k =>
    cases hk : k.check <;> cases hr : s.record? k <;>
      simp_all [Store.perform, Store.delete, takeOut]
  | list tenant token size => rfl

/-- Over every run of calls a store gives the replies of a single finite map, holds what that map
holds, and is left alone by the calls that it refuses. -/
theorem runs_as_ledger (calls : List Call) :
    let ran := runCalls Store.perform calls empty
    let reference := runCalls Ledger.perform calls ∅
    ran.1 = reference.1 ∧ Represents ran.2 reference.2 ∧
      ran.2.tenantCount = (reference.2.keys.image Key.tenant).card ∧
      ∀ now q e, (ran.2.perform now q).1 = .error e → (ran.2.perform now q).2 = ran.2 := by
  have hstep (now : Timestamp) (s : Store) (m : Ledger) (q : Request) (h : Represents s m) :
      (s.perform now q).1 = (m.perform now q).1 ∧
        Represents (s.perform now q).2 (m.perform now q).2 := h.perform now q
  obtain ⟨hreplies, hafter⟩ := runCalls_agree (R := Represents) hstep calls represents_empty
  exact ⟨hreplies, hafter, tenantCount_eq_card hafter, fun _ _ _ h => perform_of_error h⟩

end Store

end DeviceFleet
