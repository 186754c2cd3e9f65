import DeviceFleet.Table

/-!
A table is determined by what it gives for each key, and each operation is determined by what the
table after it gives.
-/

namespace DeviceFleet.Table

theorem lookup_cons_eq_ite (e : String × α) (r : List (String × α)) (j : String) :
    (e :: r).lookup j = if j = e.1 then some e.2 else r.lookup j := by
  obtain ⟨i, a⟩ := e
  rw [List.lookup_cons]
  by_cases h : j = i
  · subst h
    simp
  · have hb : (j == i) = false := by simp [h]
    simp [hb, h]

theorem lookup_putEntry (k j : String) (a : α) (entries : List (String × α)) :
    (putEntry k a entries).lookup j = if j = k then some a else entries.lookup j := by
  induction entries with
  | nil => simp [putEntry, lookup_cons_eq_ite]
  | cons e r ih =>
    simp only [putEntry]
    split
    · simp [lookup_cons_eq_ite]
    · split
      · next heq =>
        subst heq
        by_cases h : j = e.1 <;> simp [lookup_cons_eq_ite, h]
      · next hne =>
        by_cases h : j = e.1
        · subst h
          simp [lookup_cons_eq_ite, hne]
        · simp [lookup_cons_eq_ite, h, ih]

theorem lookup_filter_key (p : String → Bool) (j : String) (entries : List (String × α)) :
    (entries.filter fun e => p e.1).lookup j = if p j then entries.lookup j else none := by
  induction entries with
  | nil => simp
  | cons e r ih =>
    by_cases h : j = e.1
    · subst h
      cases hp : p e.1
      · simpa [hp] using ih
      · simp [lookup_cons_eq_ite, hp]
    · cases hp : p e.1 <;> simp [lookup_cons_eq_ite, hp, h, ih]

@[simp] theorem get?_empty (k : String) : (∅ : Table α).get? k = none := rfl

@[simp] theorem get?_insert (t : Table α) (k j : String) (a : α) :
    (t.insert k a).get? j = if j = k then some a else t.get? j :=
  lookup_putEntry k j a t.entries

@[simp] theorem get?_erase (t : Table α) (k j : String) :
    (t.erase k).get? j = if j = k then none else t.get? j := by
  have h := lookup_filter_key (fun i => decide (i ≠ k)) j t.entries
  by_cases hj : j = k <;> simpa [get?, erase, hj] using h

@[simp] theorem get?_after (t : Table α) (k j : String) :
    (t.after k).get? j = if k < j then t.get? j else none := by
  simpa [get?, after] using lookup_filter_key (fun i => decide (k < i)) j t.entries

theorem lookup_eq_none_of_lt {entries : List (String × α)} {k : String}
    (h : ∀ e ∈ entries, k < e.1) : entries.lookup k = none := by
  induction entries with
  | nil => rfl
  | cons e r ih =>
    have hne : k ≠ e.1 := fun heq => String.lt_irrefl k (heq ▸ h e List.mem_cons_self)
    rw [lookup_cons_eq_ite, if_neg hne]
    exact ih fun f hf => h f (List.mem_cons_of_mem _ hf)

theorem not_lt_of_lookup_eq {x y : String × α} {xs ys : List (String × α)}
    (hys : ∀ e ∈ ys, y.1 < e.1) (h : (x :: xs).lookup x.1 = (y :: ys).lookup x.1) :
    ¬ x.1 < y.1 := by
  intro hlt
  have hnone : (y :: ys).lookup x.1 = none := lookup_eq_none_of_lt fun e he => by
    rcases List.mem_cons.mp he with rfl | he
    · exact hlt
    · exact String.lt_trans hlt (hys e he)
  simp [hnone, lookup_cons_eq_ite] at h

theorem entries_eq_of_lookup {xs ys : List (String × α)} (hx : Ascending xs) (hy : Ascending ys)
    (h : ∀ k, xs.lookup k = ys.lookup k) : xs = ys := by
  induction xs generalizing ys with
  | nil =>
    cases ys with
    | nil => rfl
    | cons y ys => simpa [lookup_cons_eq_ite] using h y.1
  | cons x xs ih =>
    cases ys with
    | nil => simpa [lookup_cons_eq_ite] using h x.1
    | cons y ys =>
      obtain ⟨hxs, hx⟩ := List.pairwise_cons.mp hx
      obtain ⟨hys, hy⟩ := List.pairwise_cons.mp hy
      have hkey : x.1 = y.1 := String.le_antisymm
        (String.not_lt.mp (not_lt_of_lookup_eq hxs (h y.1).symm))
        (String.not_lt.mp (not_lt_of_lookup_eq hys (h x.1)))
      have hvalue : x.2 = y.2 := by
        simpa [lookup_cons_eq_ite, hkey] using h x.1
      have htail : xs = ys := ih hx hy fun k => by
        by_cases hk : k = x.1
        · subst hk
          rw [lookup_eq_none_of_lt hxs, lookup_eq_none_of_lt (hkey ▸ hys)]
        · simpa [lookup_cons_eq_ite, hk, hkey ▸ hk] using h k
      rw [htail, Prod.ext hkey hvalue]

/-- A table is what it gives for each key. -/
theorem ext_get? {s t : Table α} (h : ∀ k, s.get? k = t.get? k) : s = t := by
  obtain ⟨xs, hx⟩ := s
  obtain ⟨ys, hy⟩ := t
  congr 1
  exact entries_eq_of_lookup hx hy h

/-- The entries of a table are the keys with what it gives for them. -/
theorem mem_entries_iff {t : Table α} {k : String} {a : α} :
    (k, a) ∈ t.entries ↔ t.get? k = some a := by
  obtain ⟨entries, h⟩ := t
  simp only [get?]
  induction entries with
  | nil => simp
  | cons e r ih =>
    obtain ⟨hhead, htail⟩ := List.pairwise_cons.mp h
    rw [List.mem_cons, ih htail, lookup_cons_eq_ite]
    by_cases hk : k = e.1
    · subst hk
      have hnone := lookup_eq_none_of_lt hhead
      simp [hnone, Prod.ext_iff, eq_comm]
    · simp [hk, Prod.ext_iff]

theorem putEntry_of_forall_lt {k : String} {a : α} {entries : List (String × α)}
    (h : ∀ e ∈ entries, e.1 < k) : putEntry k a entries = entries ++ [(k, a)] := by
  induction entries with
  | nil => rfl
  | cons e r ih =>
    have hlt : e.1 < k := h e List.mem_cons_self
    have hne : e.1 ≠ k := fun heq => String.lt_irrefl k (heq ▸ hlt)
    have hnlt : ¬ k < e.1 := fun hk => String.lt_irrefl k (String.lt_trans hk hlt)
    rw [putEntry, if_neg hnlt, if_neg hne, ih fun f hf => h f (List.mem_cons_of_mem e hf)]
    rfl

/-- Entries that are put in ascending order stand in this order. -/
theorem foldl_putEntry {done entries : List (String × α)} (h : Ascending (done ++ entries)) :
    entries.foldl (fun es e => putEntry e.1 e.2 es) done = done ++ entries := by
  induction entries generalizing done with
  | nil => rw [List.foldl_nil, List.append_nil]
  | cons e r ih =>
    have hput : putEntry e.1 e.2 done = done ++ [e] :=
      putEntry_of_forall_lt fun f hf => (List.pairwise_append.mp h).2.2 f hf e List.mem_cons_self
    rw [List.foldl_cons, hput, ih (by simpa using h), List.append_assoc, List.singleton_append]

theorem entries_foldl_insert (t : Table α) (pairs : List (String × α)) :
    (pairs.foldl (fun t p => t.insert p.1 p.2) t).entries =
      pairs.foldl (fun es e => putEntry e.1 e.2 es) t.entries := by
  induction pairs generalizing t with
  | nil => rfl
  | cons p r ih => exact ih (t.insert p.1 p.2)

/-- A table is built again from its own entries. -/
theorem ofList_entries (t : Table α) : ofList t.entries = t := by
  have h : (ofList t.entries).entries = t.entries := by
    rw [ofList, entries_foldl_insert]
    exact foldl_putEntry t.ascending
  generalize ofList t.entries = s at h
  obtain ⟨xs, hx⟩ := s
  subst h
  rfl

end DeviceFleet.Table
