import DeviceFleet.Proofs.Fleet.Stepping

/-! Any number of callers that share a store, in any interleaving of their steps: what was filed
stays until it is taken out, and the count is right whenever no call is under way. -/

namespace DeviceFleet

/-- Who takes a step, and what the clock says then. -/
abbrev Turn := Nat × Timestamp

def alternation (k : Key) (n : Nat) : List Change :=
  (List.range n).map fun i => if i % 2 = 0 then .filed k else .takenOut k

def changesOf (k : Key) (past : List Change) : List Change := past.filter fun c => c.key = k

/-- The changes of each key alternate, and its record is there after an odd number of them. -/
def Store.Recounts (s : Store) (past : List Change) : Prop :=
  ∀ k, changesOf k past = alternation k (changesOf k past).length ∧
    ((s.record? k).isSome ↔ (changesOf k past).length % 2 = 1)

namespace Store

variable {now : Timestamp} {s t : Store} {past : List Change}

lemma recounts_empty : empty.Recounts [] := by
  intro k
  simp [changesOf, alternation]

lemma Recounts.of_none (h : s.Recounts past) (hm : s.Moves now t none) : t.Recounts past := by
  intro k
  rw [hm.isSome_eq (by simp)]
  exact h k

lemma changesOf_append_of_ne {c : Change} {k : Key} (hk : c.key ≠ k) (past : List Change) :
    changesOf k (past ++ [c]) = changesOf k past := by
  simp [changesOf, hk]

lemma changesOf_append_self (c : Change) (past : List Change) :
    changesOf c.key (past ++ [c]) = changesOf c.key past ++ [c] := by
  simp [changesOf]

lemma Recounts.of_some (h : s.Recounts past) {c : Change} (hm : s.Moves now t (some c)) :
    t.Recounts (past ++ [c]) := by
  intro k
  by_cases hk : c.key = k
  · subst hk
    obtain ⟨halternate, hpresent⟩ := h c.key
    rw [changesOf_append_self, List.length_append, List.length_singleton, alternation,
      List.range_succ, List.map_append, ← alternation, ← halternate]
    cases c with
    | filed k =>
      obtain ⟨hfree, r, _, hafter⟩ := hm
      have heven : (changesOf k past).length % 2 = 0 := by
        simp only [Change.key, hfree, Option.isSome_none, Bool.false_eq_true, false_iff] at hpresent
        omega
      refine ⟨by simp [Change.key, heven], ?_⟩
      simp only [Change.key, hafter, if_true, Option.isSome_some, true_iff]
      omega
    | takenOut k =>
      obtain ⟨⟨r, hheld⟩, hafter⟩ := hm
      have hodd : (changesOf k past).length % 2 = 1 := by
        simpa [Change.key, hheld] using hpresent
      refine ⟨by simp [Change.key, hodd], ?_⟩
      simp only [Change.key, hafter, if_true, Option.isSome_none, Bool.false_eq_true, false_iff]
      omega
  · rw [changesOf_append_of_ne hk, hm.isSome_eq (by simpa using hk)]
    exact h k

end Store

namespace Crowd

def change? (now : Timestamp) (i : Nat) (c : Crowd) : Option Change :=
  c.callers[i]?.bind fun caller => caller.made? (c.shared.step now caller).1

def history (c : Crowd) : List Turn → List Change
  | [] => []
  | turn :: rest => (c.change? turn.2 turn.1).toList ++ (c.step turn.2 turn.1).history rest

lemma run_cons (c : Crowd) (turn : Turn) (rest : List Turn) :
    c.run (turn :: rest) = (c.step turn.2 turn.1).run rest := rfl

lemma history_append (c : Crowd) (earlier later : List Turn) :
    c.history (earlier ++ later) = c.history earlier ++ (c.run earlier).history later := by
  induction earlier generalizing c with
  | nil => rfl
  | cons turn rest ih => rw [List.cons_append, history, ih, history, run_cons, List.append_assoc]

/-- What all callers together have still to take from the count. -/
def debt (c : Crowd) : Nat := (c.callers.map Caller.debt).sum

structure Sound (past : List Change) (c : Crowd) : Prop where
  filed : c.shared.store.Filed
  recounts : c.shared.store.Recounts past
  credited : past.Perm (c.callers.filterMap Caller.change?)
  counted : c.shared.store.devices = c.shared.store.recordCount + c.debt
  vacant : ∀ tenant, c.shared.store.Vacant tenant → ∃ k, .tookOut k ∈ c.callers ∧ k.tenant = tenant

lemma filterMap_middle {α β : Type} (f : α → Option β) (xs : List α) (a : α) (ys : List α) :
    (xs ++ a :: ys).filterMap f = xs.filterMap f ++ ((f a).toList ++ ys.filterMap f) := by
  cases h : f a <;> simp [h]

lemma step_cases (now : Timestamp) (i : Nat) (c : Crowd) :
    (c.step now i = c ∧ c.change? now i = none) ∨
      ∃ xs before ys after s, c.callers = xs ++ before :: ys ∧
        Caller.Stepped now c.shared before after s ∧ c.step now i = ⟨xs ++ after :: ys, s⟩ ∧
        c.change? now i = before.made? after := by
  cases hi : c.callers[i]? with
  | none => exact Or.inl ⟨by simp [step, hi], by simp [change?, hi]⟩
  | some before =>
    obtain ⟨hlt, hbefore⟩ := List.getElem?_eq_some_iff.mp hi
    obtain ⟨xs, ys, hsplit, _, hset⟩ :=
      @List.exists_of_set _ _ (c.shared.step now before).1 _ hlt
    rw [hbefore] at hsplit
    refine Or.inr ⟨xs, before, ys, _, _, hsplit, Caller.stepped now c.shared before, ?_, ?_⟩
    · simp only [step, hi]
      rw [hset]
    · simp [change?, hi]

lemma step_moves (now : Timestamp) (i : Nat) (c : Crowd) :
    c.shared.store.Moves now (c.step now i).shared.store (c.change? now i) := by
  rcases c.step_cases now i with ⟨hstep, hchange⟩ | ⟨xs, before, ys, after, s, _, hs, hstep, hchange⟩
  · rw [hstep, hchange]
    exact fun _ => rfl
  · rw [hstep, hchange]
    exact hs.moves

lemma sound_ofRequests (qs : List Request) : Sound [] (ofRequests .empty qs) where
  filed := Store.filed_empty
  recounts := Store.recounts_empty
  credited := by
    have hnone : (qs.map Caller.waiting).filterMap Caller.change? = [] := by
      simp [List.filterMap_map, Function.comp_def, Caller.change?]
    rw [ofRequests, hnone]
  counted := by
    have hnone : (qs.map Caller.waiting).map Caller.debt = qs.map fun _ => 0 := by
      rw [List.map_map]
      rfl
    simp [ofRequests, SharedStore.ofStore, debt, hnone, Store.empty, Store.recordCount]
    rfl
  vacant := fun tenant hv => (Store.not_vacant_empty tenant hv).elim

section Stepped

variable {now : Timestamp} {shared s : SharedStore} {before after : Caller} {xs ys : List Caller}

lemma credited_of_stepped (hs : Caller.Stepped now shared before after s) {past : List Change}
    (h : past.Perm ((xs ++ before :: ys).filterMap Caller.change?)) :
    (past ++ (before.made? after).toList).Perm ((xs ++ after :: ys).filterMap Caller.change?) := by
  rw [filterMap_middle] at h
  rw [filterMap_middle, hs.change?_eq]
  refine (h.append_right _).trans ?_
  simp only [List.append_assoc]
  exact (List.perm_append_comm.append_left _).append_left _

lemma counted_of_stepped (hs : Caller.Stepped now shared before after s)
    (h : shared.store.devices = shared.store.recordCount + debt ⟨xs ++ before :: ys, shared⟩) :
    s.store.devices = s.store.recordCount + debt ⟨xs ++ after :: ys, s⟩ := by
  have hmoved := hs.devices_eq
  simp only [debt, List.map_append, List.map_cons, List.sum_append, List.sum_cons] at h ⊢
  omega

lemma vacant_of_stepped (hs : Caller.Stepped now shared before after s) {tenant : String}
    (h : shared.store.Vacant tenant → ∃ k, .tookOut k ∈ xs ++ before :: ys ∧ k.tenant = tenant)
    (hv : s.store.Vacant tenant) : ∃ k, .tookOut k ∈ xs ++ after :: ys ∧ k.tenant = tenant := by
  rcases hs.vacant hv with ⟨hold, hother⟩ | ⟨k, rfl, hk⟩
  · obtain ⟨k, hmem, hk⟩ := h hold
    refine ⟨k, ?_, hk⟩
    rcases List.mem_append.mp hmem with hmem | hmem
    · exact List.mem_append_left _ hmem
    · apply List.mem_append_right
      rcases List.mem_cons.mp hmem with hmem | hmem
      · exact (hother k hmem.symm).elim (fun ha => ha ▸ List.mem_cons_self) (absurd hk)
      · exact List.mem_cons_of_mem _ hmem
  · exact ⟨k, List.mem_append_right _ List.mem_cons_self, hk⟩

end Stepped

lemma Sound.recounts_step {past : List Change} {c : Crowd} (h : Sound past c) (now : Timestamp)
    (i : Nat) : (c.step now i).shared.store.Recounts (past ++ (c.change? now i).toList) := by
  have hmoves := c.step_moves now i
  cases hc : c.change? now i with
  | none => simpa [hc] using h.recounts.of_none (hc ▸ hmoves)
  | some change => exact h.recounts.of_some (hc ▸ hmoves)

lemma Sound.step {past : List Change} {c : Crowd} (h : Sound past c) (now : Timestamp) (i : Nat) :
    Sound (past ++ (c.change? now i).toList) (c.step now i) := by
  have hrecounts := h.recounts_step now i
  obtain ⟨callers, shared⟩ := c
  rcases step_cases now i ⟨callers, shared⟩ with
    ⟨hstep, hchange⟩ | ⟨xs, before, ys, after, s, hsplit, hs, hstep, hchange⟩
  · simpa [hstep, hchange] using h
  · obtain rfl : callers = xs ++ before :: ys := hsplit
    rw [hstep, hchange] at hrecounts ⊢
    exact ⟨hs.keeps_filed h.filed, hrecounts, credited_of_stepped hs h.credited,
      counted_of_stepped hs h.counted, fun tenant => vacant_of_stepped hs (h.vacant tenant)⟩

lemma Sound.run {past : List Change} {c : Crowd} (h : Sound past c) (turns : List Turn) :
    Sound (past ++ c.history turns) (c.run turns) := by
  induction turns generalizing past c with
  | nil => simpa [history, Crowd.run] using h
  | cons turn rest ih =>
    rw [run_cons, history, ← List.append_assoc]
    exact ih (h.step turn.2 turn.1)

lemma Sound.idle {past : List Change} {c : Crowd} (h : Sound past c)
    (hidle : ∀ caller ∈ c.callers, caller.isUnderWay = false) :
    c.shared.store.devices = c.shared.store.recordCount ∧
      ∀ tenant, ¬ c.shared.store.Vacant tenant := by
  constructor
  · have hdebt : c.debt = 0 := by
      apply List.sum_eq_zero
      intro n hn
      obtain ⟨caller, hcaller, rfl⟩ := List.mem_map.mp hn
      exact Caller.debt_of_idle (hidle caller hcaller)
    rw [h.counted, hdebt]
    simp
  · intro tenant hv
    obtain ⟨k, hk, _⟩ := h.vacant tenant hv
    exact absurd (hidle _ hk) (by simp [Caller.isUnderWay])

lemma record_stays {c : Crowd} {k : Key} {r : Record} (later : List Turn)
    (hr : c.shared.store.record? k = some r) (hk : .takenOut k ∉ c.history later) :
    ∃ r', (c.run later).shared.store.record? k = some r' ∧ r'.createdAt = r.createdAt := by
  induction later generalizing c r with
  | nil => exact ⟨r, hr, rfl⟩
  | cons turn rest ih =>
    rw [history, List.mem_append, not_or] at hk
    obtain ⟨r', hr', hsame⟩ := (c.step_moves turn.2 turn.1).keeps hr
      fun hc => hk.1 (by simp [hc])
    obtain ⟨r'', hr'', hlast⟩ := ih hr' hk.2
    exact ⟨r'', hr'', hlast.trans hsame⟩

/-- Calls of any number of clients, each call a caller of its own that may begin at any time, in any
interleaving of their steps. For each key what successful calls did alternates, beginning with a
creation; the count is never negative, and right when no call is under way, with no empty shard left;
and what a creation has filed can be fetched until a deletion takes it out. -/
theorem interleaving_safe (qs : List Request) (turns : List Turn) :
    let past := (ofRequests .empty qs).history turns
    let c := (ofRequests .empty qs).run turns
    (∀ k, changesOf k past = alternation k (changesOf k past).length) ∧
      past.Perm (c.callers.filterMap Caller.change?) ∧
      0 ≤ c.shared.store.devices ∧
      ((∀ caller ∈ c.callers, caller.isUnderWay = false) →
        c.shared.store.devices = c.shared.store.recordCount ∧
          ∀ tenant, ¬ c.shared.store.Vacant tenant) ∧
      ∀ i now k later, c.change? now i = some (.filed k) →
        .takenOut k ∉ (c.step now i).history later →
        ∃ r, ((c.step now i).run later).shared.store.get k = .ok r ∧ r.createdAt = now := by
  intro past c
  have hsound : Sound past c := (sound_ofRequests qs).run turns
  refine ⟨fun k => (hsound.recounts k).1, hsound.credited, ?_, hsound.idle, ?_⟩
  · rw [hsound.counted]
    omega
  · intro i now k later hfiled hkept
    have hmoves := c.step_moves now i
    rw [hfiled] at hmoves
    obtain ⟨_, r, hstamp, hafter⟩ := hmoves
    obtain ⟨r', hr', hsame⟩ := record_stays later ((hafter k).trans (if_pos rfl)) hkept
    have hlast := (hsound.step now i).run later
    exact ⟨r', Store.get_of_record? hlast.filed hr', hsame.trans hstamp⟩

end Crowd

end DeviceFleet
