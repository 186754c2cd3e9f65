import DeviceFleet.Fleet.SharedStore
import DeviceFleet.Proofs.Fleet.Contents

/-! Everything that one step of a caller can do to a shared store. -/

namespace DeviceFleet

/-- What a successful call does to the keys of a store. -/
inductive Change
  | filed (k : Key)
  | takenOut (k : Key)
  deriving DecidableEq, Repr

def Change.key : Change → Key
  | .filed k => k
  | .takenOut k => k

/-- How a change shows in the records; whatever happens, a record keeps the stamp of its creation. -/
def Store.Moves (now : Timestamp) (s t : Store) : Option Change → Prop
  | none => ∀ j, (t.record? j).map Record.createdAt = (s.record? j).map Record.createdAt
  | some (.filed k) => s.record? k = none ∧
      ∃ r, r.createdAt = now ∧ ∀ j, t.record? j = if j = k then some r else s.record? j
  | some (.takenOut k) => (∃ r, s.record? k = some r) ∧
      ∀ j, t.record? j = if j = k then none else s.record? j

namespace Store

variable {now : Timestamp} {s t : Store} {change : Option Change} {k : Key}

lemma Moves.isSome_eq (h : s.Moves now t change) (hk : ∀ c ∈ change, c.key ≠ k) :
    (t.record? k).isSome = (s.record? k).isSome := by
  cases change with
  | none => simpa using congrArg Option.isSome (h k)
  | some c =>
    cases c with
    | filed j =>
      obtain ⟨_, r, _, hafter⟩ := h
      have hne : k ≠ j := Ne.symm (hk (.filed j) rfl)
      rw [hafter, if_neg hne]
    | takenOut j =>
      have hne : k ≠ j := Ne.symm (hk (.takenOut j) rfl)
      rw [h.2, if_neg hne]

lemma Moves.mem_of_isSome (h : s.Moves now t change) (hk : (t.record? k).isSome) :
    (s.record? k).isSome ∨ change = some (.filed k) := by
  by_cases hc : ∀ c ∈ change, c.key ≠ k
  · exact Or.inl (h.isSome_eq hc ▸ hk)
  · cases change with
    | none => simp at hc
    | some c =>
      cases c with
      | filed j =>
        obtain rfl : j = k := by simpa [Change.key] using hc
        exact Or.inr rfl
      | takenOut j =>
        obtain rfl : j = k := by simpa [Change.key] using hc
        rw [h.2, if_pos rfl] at hk
        exact absurd hk Bool.false_ne_true

lemma Moves.keeps (h : s.Moves now t change) {r : Record} (hr : s.record? k = some r)
    (hk : change ≠ some (.takenOut k)) :
    ∃ r', t.record? k = some r' ∧ r'.createdAt = r.createdAt := by
  cases change with
  | none =>
    have hsame := h k
    rw [hr] at hsame
    exact Option.map_eq_some_iff.mp hsame
  | some c =>
    cases c with
    | filed j =>
      obtain ⟨hfree, a, _, hafter⟩ := h
      have hne : k ≠ j := by
        rintro rfl
        simp [hfree] at hr
      exact ⟨r, by rw [hafter, if_neg hne, hr], rfl⟩
    | takenOut j =>
      have hne : k ≠ j := fun hkj => hk (hkj ▸ rfl)
      exact ⟨r, by rw [h.2, if_neg hne, hr], rfl⟩

end Store

namespace Caller

/-- The change that a call has made by now, if it makes one. -/
def change? : Caller → Option Change
  | .created asked _ _ => some (.filed asked.key)
  | .answered (.create r) (.ok _) => some (.filed r.key)
  | .tookOut k => some (.takenOut k)
  | .droppedEmpty k => some (.takenOut k)
  | .discounted k _ => some (.takenOut k)
  | .answered (.delete k) (.ok _) => some (.takenOut k)
  | _ => none

def made? (before after : Caller) : Option Change :=
  if before.change? = none then after.change? else none

/-- How much a call has still to take from the count of records. -/
def debt : Caller → Nat
  | .tookOut _ => 1
  | .droppedEmpty _ => 1
  | _ => 0

def isUnderWay : Caller → Bool
  | .waiting _ => false
  | .answered .. => false
  | _ => true

lemma debt_of_idle {c : Caller} (h : c.isUnderWay = false) : c.debt = 0 := by
  cases c with
  | tookOut k => simp [isUnderWay] at h
  | droppedEmpty k => simp [isUnderWay] at h
  | waiting | created | discounted | answered => rfl

/-- The steps of a caller: it rests while it has to wait or has its answer, is answered at once, or
goes through the stages of a creation or a deletion. -/
inductive Stepped (now : Timestamp) (s : SharedStore) : Caller → Caller → SharedStore → Prop
  | rested (c : Caller) : Stepped now s c c s
  | answered (q : Request) :
      (Caller.answered q (s.store.perform now q).1).change? = none →
      (s.store.perform now q).2 = s.store →
      Stepped now s (.waiting q) (.answered q (s.store.perform now q).1) s
  | revised {r old : Record} : r.key.check = .ok () → s.store.record? r.key = some old →
      Stepped now s (.waiting (.update r)) (.answered (.update r) (s.store.revise now r).1)
        { s with store := (s.store.revise now r).2 }
  | filed {r : Record} : r.key.check = .ok () → s.store.record? r.key = none →
      Stepped now s (.waiting (.create r))
        (.created r { r with createdAt := now, modifiedAt := now } (s.store.enroll now r).2.devices)
        { s with store := (s.store.enroll now r).2, held := r.tenant :: s.held }
  | released (asked stamped : Record) (devices : Int) :
      Stepped now s (.created asked stamped devices) (.answered (.create asked) (.ok stamped))
        { s with held := s.held.erase asked.tenant, gauge := some devices }
  | tookOut {k : Key} {r : Record} : k.check = .ok () → s.store.record? k = some r →
      Stepped now s (.waiting (.delete k)) (.tookOut k) { s with store := (s.store.takeOut k).2 }
  | dropped (k : Key) :
      Stepped now s (.tookOut k) (.droppedEmpty k) { s with store := s.store.dropEmpty k.tenant }
  | discounted (k : Key) :
      Stepped now s (.droppedEmpty k) (.discounted k s.store.discount.devices)
        { s with store := s.store.discount }
  | gauged (k : Key) (devices : Int) :
      Stepped now s (.discounted k devices) (.answered (.delete k) (.ok ()))
        { s with gauge := some devices }

variable {now : Timestamp} {s t : SharedStore} {before after : Caller}

lemma Stepped.refused {q : Request} {e : StoreError}
    (h : s.store.perform now q = (.error e, s.store)) :
    Stepped now s (.waiting q) (.answered q (.error e)) s := by
  have hanswered := @Stepped.answered now s q
  rw [h] at hanswered
  exact hanswered (by cases q <;> rfl) rfl

lemma stepped_create (now : Timestamp) (s : SharedStore) (r : Record) :
    Stepped now s (.waiting (.create r)) (s.beginCreate now r).1 (s.beginCreate now r).2 := by
  cases hk : r.key.check with
  | error e =>
    have h : s.store.perform now (.create r) = (.error e, s.store) := by
      simp [Store.perform, Store.create, hk]
    simpa [SharedStore.beginCreate, Store.create, hk] using Stepped.refused h
  | ok u =>
    cases hr : s.store.record? r.key with
    | some old =>
      have h : s.store.perform now (.create r) = (.error (.alreadyExists r.key), s.store) := by
        simp [Store.perform, Store.create, hk, Store.enroll_of_taken now hr]
      simpa [SharedStore.beginCreate, Store.create, hk, Store.enroll_of_taken now hr] using
        Stepped.refused h
    | none =>
      have h := @Stepped.filed now s r hk hr
      simpa [SharedStore.beginCreate, Store.create, hk, Store.enroll_of_free now hr] using h

lemma stepped_delete (now : Timestamp) (s : SharedStore) (k : Key) :
    Stepped now s (.waiting (.delete k)) (s.beginDelete k).1 (s.beginDelete k).2 := by
  cases hk : k.check with
  | error e =>
    have h : s.store.perform now (.delete k) = (.error e, s.store) := by
      simp [Store.perform, Store.delete, hk]
    simpa [SharedStore.beginDelete, hk] using Stepped.refused h
  | ok u =>
    cases hr : s.store.record? k with
    | none =>
      have h : s.store.perform now (.delete k) = (.error (.notFound k), s.store) := by
        simp [Store.perform, Store.delete, hk, Store.takeOut, hr]
      simpa [SharedStore.beginDelete, hk, Store.takeOut, hr] using Stepped.refused h
    | some r =>
      have h := @Stepped.tookOut now s k r hk hr
      simpa [SharedStore.beginDelete, hk, Store.takeOut, hr] using h

lemma stepped_update (now : Timestamp) (s : SharedStore) (r : Record) :
    Stepped now s (.waiting (.update r)) (s.performAtOnce now (.update r)).1
      (s.performAtOnce now (.update r)).2 := by
  cases hk : r.key.check with
  | error e =>
    have h : s.store.perform now (.update r) = (.error e, s.store) := by
      simp [Store.perform, Store.update, hk]
    simpa [SharedStore.performAtOnce, h] using Stepped.refused h
  | ok u =>
    cases hr : s.store.record? r.key with
    | none =>
      have h : s.store.perform now (.update r) = (.error (.notFound r.key), s.store) := by
        simp [Store.perform, Store.update, hk, Store.revise_of_free now hr]
      simpa [SharedStore.performAtOnce, h] using Stepped.refused h
    | some old =>
      have h := @Stepped.revised now s r old hk hr
      simpa [SharedStore.performAtOnce, Store.perform, Store.update, hk] using h

theorem stepped (now : Timestamp) (s : SharedStore) (c : Caller) :
    Stepped now s c (s.step now c).1 (s.step now c).2 := by
  by_cases hw : c.needs?.any s.held.contains = true
  · rw [SharedStore.step, if_pos hw]
    exact .rested c
  · rw [SharedStore.step, if_neg hw]
    cases c with
    | waiting q =>
      cases q with
      | create r => exact stepped_create now s r
      | get k => exact .answered (.get k) rfl rfl
      | update r => exact stepped_update now s r
      | delete k => exact stepped_delete now s k
      | list tenant token size => exact .answered (.list tenant token size) rfl rfl
    | created asked stamped devices => exact .released asked stamped devices
    | tookOut k => exact .dropped k
    | droppedEmpty k => exact .discounted k
    | discounted k devices => exact .gauged k devices
    | answered q r => exact .rested _

lemma Stepped.change?_eq (h : Stepped now s before after t) :
    after.change?.toList = before.change?.toList ++ (before.made? after).toList := by
  cases h with
  | rested => cases hc : before.change? <;> simp [made?, hc]
  | answered q _ _ => simp [made?, change?]
  | revised _ _ => simp [made?, change?]
  | filed _ _ => simp [made?, change?]
  | released asked stamped devices => simp [made?, change?]
  | tookOut _ _ => simp [made?, change?]
  | dropped k => simp [made?, change?]
  | discounted k => simp [made?, change?]
  | gauged k devices => simp [made?, change?]

lemma Stepped.keeps_filed (h : Stepped now s before after t) (hs : s.store.Filed) :
    t.store.Filed := by
  cases h with
  | rested | answered | released | gauged => exact hs
  | revised hk hr => exact hs.revise
  | filed hk hr => exact hs.enroll hk
  | tookOut hk hr => exact hs.takeOut
  | dropped k => exact hs.dropEmpty
  | discounted k => exact hs.discount

lemma Stepped.moves (h : Stepped now s before after t) :
    s.store.Moves now t.store (before.made? after) := by
  cases h with
  | rested =>
    cases hc : before.change? <;> simp [made?, hc, Store.Moves]
  | answered q hq _ =>
    rw [made?, hq, ite_self]
    exact fun _ => rfl
  | @revised r old _ hr =>
    intro j
    simp only [Store.record?_revise now r old s.store j hr]
    split
    · next hj => simp [hj, hr]
    · rfl
  | @filed r _ hr =>
    refine ⟨hr, { r with createdAt := now, modifiedAt := now }, rfl, fun j => ?_⟩
    simp only [Store.record?_enroll, hr, and_true]
  | released => intro j; rfl
  | @tookOut k r _ hr => exact ⟨⟨r, hr⟩, fun j => Store.record?_takeOut k j s.store⟩
  | dropped k => intro j; simp only [Store.record?_dropEmpty]
  | discounted => intro j; rfl
  | gauged => intro j; rfl

/-- The count and the debts of the callers move together with the records. -/
lemma Stepped.devices_eq (h : Stepped now s before after t) :
    t.store.devices + before.debt + s.store.recordCount =
      s.store.devices + after.debt + t.store.recordCount := by
  cases h with
  | rested | answered | released | gauged => simp [debt]
  | @revised r old _ hr =>
    have hsame (k : Key) :
        ((s.store.revise now r).2.record? k).isSome = (s.store.record? k).isSome := by
      rw [Store.record?_revise now r old s.store k hr]
      split
      · next hk => simp [hk, hr]
      · rfl
    rw [Store.recordCount_congr hsame, Store.devices_revise]
    rfl
  | @filed r _ hr =>
    have hcount := Store.recordCount_of_filed hr fun j => by
      simpa [hr] using Store.record?_enroll now r s.store j
    rw [Store.devices_enroll_of_free now hr, hcount]
    simp only [debt]
    omega
  | @tookOut k r _ hr =>
    have hcount := Store.recordCount_of_takenOut hr fun j => Store.record?_takeOut k j s.store
    rw [Store.devices_takeOut]
    simp only [debt]
    omega
  | dropped k =>
    have hcount := Store.recordCount_congr fun j =>
      congrArg Option.isSome (Store.record?_dropEmpty k.tenant s.store j)
    simp [debt, hcount]
  | discounted k =>
    simp only [debt, Store.discount, Store.recordCount]
    omega

/-- A shard is left empty by the one who takes its last record, until that one drops it. -/
lemma Stepped.vacant (h : Stepped now s before after t) {tenant : String}
    (hv : t.store.Vacant tenant) :
    (s.store.Vacant tenant ∧ ∀ k, before = .tookOut k → after = .tookOut k ∨ k.tenant ≠ tenant) ∨
      ∃ k, after = .tookOut k ∧ k.tenant = tenant := by
  cases h with
  | rested => exact Or.inl ⟨hv, fun k hk => Or.inl hk⟩
  | answered | released | gauged => exact Or.inl ⟨hv, by simp⟩
  | revised => exact Or.inl ⟨Store.vacant_revise hv, by simp⟩
  | filed => exact Or.inl ⟨Store.vacant_enroll hv, by simp⟩
  | tookOut =>
    rcases Store.vacant_takeOut hv with hv | rfl
    · exact Or.inl ⟨hv, by simp⟩
    · exact Or.inr ⟨_, rfl, rfl⟩
  | dropped k =>
    obtain ⟨hv, hne⟩ := Store.vacant_dropEmpty hv
    refine Or.inl ⟨hv, fun j hj => Or.inr ?_⟩
    obtain rfl := Caller.tookOut.inj hj
    exact Ne.symm hne
  | discounted => exact Or.inl ⟨hv, by simp⟩

end Caller

end DeviceFleet
