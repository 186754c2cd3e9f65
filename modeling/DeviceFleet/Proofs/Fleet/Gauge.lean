import DeviceFleet.Proofs.Fleet.Interleaving

/-! The gauge of records is set by each call that changes how many there are, to the number that the
call has obtained in an earlier step. So it shows what the last call to set it had obtained. -/

namespace DeviceFleet

namespace Caller

/-- The number that a call is about to set the gauge to. -/
def number? : Caller → Option Int
  | .created _ _ n => some n
  | .discounted _ n => some n
  | _ => none

def obtains? (before after : Caller) : Option Int :=
  if before.number? = none then after.number? else none

def shows? (before after : Caller) : Option Int :=
  if after.number? = none then before.number? else none

variable {now : Timestamp} {s t : SharedStore} {before after : Caller}

/-- What a step means for the gauge. -/
inductive Gauging (s t : SharedStore) (before after : Caller) : Prop
  | kept : after.number? = before.number? → (before.isAnswered → after.isAnswered) →
      t.store.devices = s.store.devices → t.gauge = s.gauge → Gauging s t before after
  | obtained : before.number? = none → before.isAnswered = false →
      after.number? = some t.store.devices → t.gauge = s.gauge → Gauging s t before after
  | shown {n : Int} : before.number? = some n → after.number? = none → after.isAnswered →
      t.store.devices = s.store.devices → t.gauge = some n → Gauging s t before after

lemma Stepped.gauging (h : Stepped now s before after t) : Gauging s t before after := by
  cases h with
  | rested => exact .kept rfl id rfl rfl
  | answered q _ _ => exact .kept rfl (fun _ => rfl) rfl rfl
  | revised _ _ => exact .kept rfl (fun _ => rfl) (Store.devices_revise _ _ _) rfl
  | filed _ _ => exact .obtained rfl rfl rfl rfl
  | released asked stamped devices => exact .shown rfl rfl rfl rfl rfl
  | tookOut _ _ => exact .kept rfl nofun (Store.devices_takeOut _ _) rfl
  | dropped k => exact .kept rfl nofun (Store.devices_dropEmpty _ _) rfl
  | discounted k => exact .obtained rfl rfl rfl rfl
  | gauged k devices => exact .shown rfl rfl rfl rfl rfl

end Caller

namespace Crowd

/-- What the steps of some turns are about, with the callers that take them. -/
def trace (about : Caller → Caller → Option Int) (c : Crowd) : List Turn → List (Nat × Int)
  | [] => []
  | turn :: rest =>
    (c.callers[turn.1]?.bind fun caller =>
      (about caller (c.shared.step turn.2 caller).1).map (turn.1, ·)).toList ++
      (c.step turn.2 turn.1).trace about rest

structure Tallied (obtained shown : List (Nat × Int)) (c : Crowd) : Prop where
  counted : c.shared.store.devices = (obtained.getLast?.map Prod.snd).getD 0
  gauged : c.shared.gauge = shown.getLast?.map Prod.snd
  once : (obtained.map Prod.fst).Nodup
  genuine : shown ⊆ obtained
  pending : ∀ i caller n, c.callers[i]? = some caller → caller.number? = some n →
    (i, n) ∈ obtained
  due : ∀ i n, (i, n) ∈ obtained → ∃ caller, c.callers[i]? = some caller ∧
    (caller.number? = some n ∨ caller.number? = none ∧ caller.isAnswered ∧ (i, n) ∈ shown)

lemma tallied_ofRequests (qs : List Request) : Tallied [] [] (ofRequests .empty qs) where
  counted := rfl
  gauged := rfl
  once := List.nodup_nil
  genuine := List.Subset.refl []
  pending i caller n hi hn := by
    obtain ⟨q, _, rfl⟩ := List.mem_map.mp (List.mem_of_getElem? hi)
    exact nomatch hn
  due i n h := absurd h List.not_mem_nil

variable {obtained shown : List (Nat × Int)} {callers : List Caller} {shared t : SharedStore}
  {before after : Caller} {i : Nat}

lemma getElem?_set_self (hi : callers[i]? = some before) :
    (callers.set i after)[i]? = some after :=
  List.getElem?_set_self (List.getElem?_eq_some_iff.mp hi).1

lemma getElem?_set_cases {j : Nat} {caller : Caller}
    (h : (callers.set i after)[j]? = some caller) :
    (j = i ∧ caller = after) ∨ (j ≠ i ∧ callers[j]? = some caller) := by
  rw [List.getElem?_set] at h
  split at h
  · next hij =>
    split at h
    · exact Or.inl ⟨hij.symm, (Option.some.inj h).symm⟩
    · exact nomatch h
  · next hij => exact Or.inr ⟨Ne.symm hij, h⟩

lemma Tallied.of_kept (h : Tallied obtained shown ⟨callers, shared⟩)
    (hi : callers[i]? = some before) (hnumber : after.number? = before.number?)
    (hdone : before.isAnswered → after.isAnswered)
    (hdevices : t.store.devices = shared.store.devices) (hgauge : t.gauge = shared.gauge) :
    Tallied obtained shown ⟨callers.set i after, t⟩ where
  counted := hdevices.trans h.counted
  gauged := hgauge.trans h.gauged
  once := h.once
  genuine := h.genuine
  pending j caller n hj hn := by
    rcases getElem?_set_cases hj with ⟨rfl, rfl⟩ | ⟨_, hj⟩
    · exact h.pending j before n hi (hnumber ▸ hn)
    · exact h.pending j caller n hj hn
  due j n hmem := by
    obtain ⟨caller, hj, hdue⟩ := h.due j n hmem
    by_cases hji : j = i
    · subst hji
      obtain rfl := Option.some.inj (hj.symm.trans hi)
      exact ⟨after, getElem?_set_self hi, hdue.imp hnumber.trans fun hd =>
        ⟨hnumber.trans hd.1, hdone hd.2.1, hd.2.2⟩⟩
    · exact ⟨caller, (List.getElem?_set_ne (Ne.symm hji)).trans hj, hdue⟩

lemma Tallied.not_mem (h : Tallied obtained shown ⟨callers, shared⟩)
    (hi : callers[i]? = some before) (hnone : before.number? = none)
    (hopen : before.isAnswered = false) (n : Int) : (i, n) ∉ obtained := by
  intro hmem
  obtain ⟨caller, hj, hdue⟩ := h.due i n hmem
  obtain rfl := Option.some.inj (hj.symm.trans hi)
  rcases hdue with hnumber | ⟨_, hdone, _⟩
  · exact nomatch hnone.symm.trans hnumber
  · exact Bool.false_ne_true (hopen.symm.trans hdone)

lemma Tallied.of_obtained (h : Tallied obtained shown ⟨callers, shared⟩)
    (hi : callers[i]? = some before) (hnone : before.number? = none)
    (hopen : before.isAnswered = false) (hafter : after.number? = some t.store.devices)
    (hgauge : t.gauge = shared.gauge) :
    Tallied (obtained ++ [(i, t.store.devices)]) shown ⟨callers.set i after, t⟩ where
  counted := by simp
  gauged := hgauge.trans h.gauged
  once := by
    rw [List.map_append, List.map_singleton]
    refine List.nodup_append.mpr ⟨h.once, List.nodup_singleton i, ?_⟩
    rintro j hj _ hmem rfl
    obtain rfl := List.mem_singleton.mp hmem
    obtain ⟨⟨_, n⟩, hn, rfl⟩ := List.mem_map.mp hj
    exact h.not_mem hi hnone hopen n hn
  genuine e he := List.mem_append_left _ (h.genuine he)
  pending j caller n hj hn := by
    rcases getElem?_set_cases hj with ⟨rfl, rfl⟩ | ⟨_, hj⟩
    · obtain rfl := Option.some.inj (hafter.symm.trans hn)
      exact List.mem_append_right _ (List.mem_singleton_self _)
    · exact List.mem_append_left _ (h.pending j caller n hj hn)
  due j n hmem := by
    rcases List.mem_append.mp hmem with hmem | hmem
    · have hji : j ≠ i := fun hji => h.not_mem hi hnone hopen n (hji ▸ hmem)
      obtain ⟨caller, hj, hdue⟩ := h.due j n hmem
      exact ⟨caller, (List.getElem?_set_ne (Ne.symm hji)).trans hj, hdue⟩
    · obtain ⟨rfl, rfl⟩ := Prod.mk.inj (List.mem_singleton.mp hmem)
      exact ⟨after, getElem?_set_self hi, Or.inl hafter⟩

lemma Tallied.of_shown (h : Tallied obtained shown ⟨callers, shared⟩)
    (hi : callers[i]? = some before) {n : Int} (hnumber : before.number? = some n)
    (hnone : after.number? = none) (hdone : after.isAnswered)
    (hdevices : t.store.devices = shared.store.devices) (hgauge : t.gauge = some n) :
    Tallied obtained (shown ++ [(i, n)]) ⟨callers.set i after, t⟩ where
  counted := hdevices.trans h.counted
  gauged := by simp [hgauge]
  once := h.once
  genuine e he := by
    rcases List.mem_append.mp he with he | he
    · exact h.genuine he
    · exact List.mem_singleton.mp he ▸ h.pending i before n hi hnumber
  pending j caller m hj hm := by
    rcases getElem?_set_cases hj with ⟨rfl, rfl⟩ | ⟨_, hj⟩
    · exact nomatch hnone.symm.trans hm
    · exact h.pending j caller m hj hm
  due j m hmem := by
    obtain ⟨caller, hj, hdue⟩ := h.due j m hmem
    by_cases hji : j = i
    · subst hji
      obtain rfl := Option.some.inj (hj.symm.trans hi)
      rcases hdue with hsome | ⟨hgone, _⟩
      · obtain rfl := Option.some.inj (hsome.symm.trans hnumber)
        exact ⟨after, getElem?_set_self hi, Or.inr ⟨hnone, hdone, by simp⟩⟩
      · exact nomatch hgone.symm.trans hnumber
    · exact ⟨caller, (List.getElem?_set_ne (Ne.symm hji)).trans hj, hdue.imp_right fun hd =>
        ⟨hd.1, hd.2.1, List.mem_append_left _ hd.2.2⟩⟩

lemma Tallied.stepped (h : Tallied obtained shown ⟨callers, shared⟩)
    (hi : callers[i]? = some before) (hg : Caller.Gauging shared t before after) :
    Tallied (obtained ++ ((before.obtains? after).map (i, ·)).toList)
      (shown ++ ((before.shows? after).map (i, ·)).toList) ⟨callers.set i after, t⟩ := by
  cases hg with
  | kept hnumber hdone hdevices hgauge =>
    have hkept := h.of_kept hi hnumber hdone hdevices hgauge
    cases hn : before.number? <;> simpa [Caller.obtains?, Caller.shows?, hnumber, hn] using hkept
  | obtained hnone hopen hafter hgauge =>
    simpa [Caller.obtains?, Caller.shows?, hnone, hafter] using
      h.of_obtained hi hnone hopen hafter hgauge
  | shown hnumber hnone hdone hdevices hgauge =>
    simpa [Caller.obtains?, Caller.shows?, hnumber, hnone] using
      h.of_shown hi hnumber hnone hdone hdevices hgauge

lemma Tallied.run {c : Crowd} (h : Tallied obtained shown c) (turns : List Turn) :
    Tallied (obtained ++ c.trace Caller.obtains? turns) (shown ++ c.trace Caller.shows? turns)
      (c.run turns) := by
  induction turns generalizing obtained shown c with
  | nil => simpa [trace, Crowd.run] using h
  | cons turn rest ih =>
    rw [run_cons, trace, trace, ← List.append_assoc, ← List.append_assoc]
    apply ih
    obtain ⟨callers, shared⟩ := c
    cases hi : callers[turn.1]? with
    | none => simpa [step, hi] using h
    | some before =>
      have hg := (Caller.stepped turn.2 shared before).gauging
      simpa [step, hi] using h.stepped hi hg

/-- Whatever the interleaving, the gauge is only ever set to a number that its caller has obtained,
and shows the last one that was set. When no call is under way it is right if the call that set it
last is the one that obtained its number last. -/
theorem gauge_of_last_shown (qs : List Request) (turns : List Turn) :
    let start := ofRequests .empty qs
    let c := start.run turns
    let obtained := start.trace Caller.obtains? turns
    let shown := start.trace Caller.shows? turns
    shown ⊆ obtained ∧ c.shared.gauge = shown.getLast?.map Prod.snd ∧
      ((∀ caller ∈ c.callers, caller.isUnderWay = false) →
        obtained ⊆ shown ∧
        ∀ i n m, obtained.getLast? = some (i, n) → shown.getLast? = some (i, m) →
          c.shared.gauge = some (c.shared.store.recordCount : Int)) := by
  intro start c obtained shown
  have htallied : Tallied obtained shown c := (tallied_ofRequests qs).run turns
  have hsound := (sound_ofRequests qs).run turns
  refine ⟨htallied.genuine, htallied.gauged, fun hidle => ⟨?_, ?_⟩⟩
  · rintro ⟨i, n⟩ hmem
    obtain ⟨caller, hi, hdue⟩ := htallied.due i n hmem
    rcases hdue with hnumber | ⟨_, _, hshown⟩
    · have hquiet := hidle caller (List.mem_of_getElem? hi)
      cases caller <;> simp [Caller.number?, Caller.isUnderWay] at hnumber hquiet
    · exact hshown
  · intro i n m hobtained hshown
    have hlast : (i, n) ∈ obtained := List.mem_of_getLast? hobtained
    have hset : (i, m) ∈ obtained := htallied.genuine (List.mem_of_getLast? hshown)
    have hsame : n = m := congrArg Prod.snd (List.inj_on_of_nodup_map htallied.once hlast hset rfl)
    have hcount := htallied.counted
    rw [(hsound.idle hidle).1, hobtained] at hcount
    rw [htallied.gauged, hshown]
    simp only [Option.map_some, Option.getD_some] at hcount ⊢
    rw [hcount, hsame]

/-- Two devices of different tenants are filed one after the other, and the gauge is set for the
second before it is set for the first. -/
theorem gauge_lags :
    let start := ofRequests .empty [.create (.new "acme" "dev-1"), .create (.new "globex" "dev-1")]
    let c := start.run [(0, .epoch), (1, .epoch), (1, .epoch), (0, .epoch)]
    c.isQuiet = true ∧ c.shared.store.devices = 2 ∧ c.shared.store.recordCount = 2 ∧
      c.shared.gauge = some 1 := by
  decide

end Crowd

end DeviceFleet
