import DeviceFleet.Proofs.Lifecycle.Vigil

/-! What a supervisor returns, and when: decided by the instants of the end of its run loop, of the
first signal, and of the deadline after that. -/

namespace DeviceFleet

namespace Vigil

/-- The cases of an answer, by the first signal and the end of the loop. -/
inductive Verdict (grace : Nat) : Option Nat → Option (Nat × LoopEnd) → Nat → RunResult → Prop
  | own {signal : Option Nat} {t : Nat} {how : LoopEnd} : (∀ s ∈ signal, t ≤ s) →
      Verdict grace signal (some (t, how)) t (how.told false)
  | unwound {s t : Nat} {how : LoopEnd} : s ≤ t → t ≤ s + grace →
      Verdict grace (some s) (some (t, how)) t (how.told true)
  | cutOff {s : Nat} {ended : Option (Nat × LoopEnd)} : (∀ e ∈ ended, s + grace ≤ e.1) →
      Verdict grace (some s) ended (s + grace) (.ok ⟨true, true⟩)

section Verdict

variable {grace s t u : Nat} {how : LoopEnd} {first : Option Nat} {ended : Option (Nat × LoopEnd)}
  {r : RunResult}

lemma Verdict.of_before (h : Verdict grace first (some (t, how)) u r)
    (hbefore : ∀ s ∈ first, t < s) : u = t ∧ r = how.told false := by
  cases h with
  | own => exact ⟨rfl, rfl⟩
  | unwound hfrom => exact absurd (hbefore _ rfl) (Nat.not_lt.mpr hfrom)
  | cutOff hlate =>
    have hlt := hbefore _ rfl
    have hle := hlate _ rfl
    omega

lemma Verdict.of_between (h : Verdict grace (some s) (some (t, how)) u r) (hfrom : s < t)
    (hto : t < s + grace) : u = t ∧ r = how.told true := by
  cases h with
  | own hbefore => exact absurd hfrom (Nat.not_lt.mpr (hbefore _ rfl))
  | unwound => exact ⟨rfl, rfl⟩
  | cutOff hlate => exact absurd hto (Nat.not_lt.mpr (hlate _ rfl))

lemma Verdict.of_beyond (h : Verdict grace (some s) ended u r)
    (hbeyond : ∀ t how, ended = some (t, how) → s + grace < t) :
    u = s + grace ∧ r = .ok ⟨true, true⟩ := by
  cases h with
  | own hbefore =>
    have hle := hbefore _ rfl
    have hlt := hbeyond _ _ rfl
    omega
  | unwound _ hto => exact absurd (hbeyond _ _ rfl) (Nat.not_lt.mpr hto)
  | cutOff => exact ⟨rfl, rfl⟩

lemma Verdict.signal {signals : List Nat} (h : Verdict grace signals.head? ended t r) {now : Nat}
    (hnow : t ≤ now) : Verdict grace (signals ++ [now]).head? ended t r := by
  cases signals with
  | nil =>
    cases h with
    | own _ => exact .own (by simpa using hnow)
  | cons s rest => exact h

lemma Verdict.loopEnds {now : Nat} (h : Verdict grace first none t r) (hnow : t ≤ now)
    (how : LoopEnd) : Verdict grace first (some (now, how)) t r := by
  cases h with
  | cutOff _ => exact .cutOff (by simpa using hnow)

end Verdict

/-- While a supervisor has not returned, what is ready has become ready at this very instant. -/
inductive Standing (v : Vigil) : Supervisor.Phase → Prop
  | fresh : (∀ s ∈ v.signals.head?, s = v.now) → v.ended = none → v.watch.deadline = none →
      v.returned = none → Standing v .initializing
  | serving : (∀ s ∈ v.signals.head?, s = v.now) → (∀ e ∈ v.ended, e.1 = v.now) →
      v.watch.deadline = none → v.returned = none → Standing v .serving
  | unwinding {s : Nat} : v.signals.head? = some s → v.watch.deadline = some (s + v.watch.grace) →
      s ≤ v.now → v.now ≤ s + v.watch.grace → (∀ e ∈ v.ended, e.1 = v.now) →
      v.returned = none → Standing v .unwinding
  | returned {t : Nat} {r : RunResult} : v.returned = some t → t ≤ v.now →
      Verdict v.watch.grace v.signals.head? v.ended t r → Standing v (.returned r)

structure Sound (v : Vigil) : Prop where
  standing : v.Standing v.phase
  current : v.watch.supervisor.tracker.current = v.phase.state

lemma sound_begin (start grace : Nat) : (begin start grace).Sound :=
  ⟨.fresh (by simp [begin]) rfl rfl rfl, rfl⟩

variable {v : Vigil} {phase : Supervisor.Phase}

lemma Standing.signal (h : v.Standing phase) : (v.step .signal).Standing phase := by
  have hhead : ∀ s ∈ (v.signals ++ [v.now]).head?, s ∈ v.signals.head? ∨ s = v.now := by
    cases v.signals <;> simp
  cases h with
  | fresh hsignal hend hdead hret =>
    exact .fresh (fun s hs => (hhead s hs).elim (hsignal s) id) hend hdead hret
  | serving hsignal hend hdead hret =>
    exact .serving (fun s hs => (hhead s hs).elim (hsignal s) id) hend hdead hret
  | unwinding hsignal hdead hfrom hto hend hret =>
    refine .unwinding ?_ hdead hfrom hto hend hret
    simp [step, List.head?_append, hsignal]
  | returned hret hle hverdict => exact .returned hret hle (hverdict.signal hle)

lemma Standing.loopEnds (h : v.Standing phase) (hphase : v.phase = phase) (how : LoopEnd) :
    (v.loopEnds how).Standing phase := by
  cases hend : v.ended with
  | some e =>
    have hsame : v.loopEnds how = v := by
      rw [Vigil.loopEnds, hend]
      cases v.phase <;> rfl
    rwa [hsame]
  | none =>
    cases h with
    | fresh hsignal hend hdead hret =>
      rw [Vigil.loopEnds, hphase]
      exact .fresh hsignal hend hdead hret
    | serving hsignal _ hdead hret =>
      rw [Vigil.loopEnds, hphase, hend]
      exact .serving hsignal (by simp) hdead hret
    | unwinding hsignal hdead hfrom hto _ hret =>
      rw [Vigil.loopEnds, hphase, hend]
      exact .unwinding hsignal hdead hfrom hto (by simp) hret
    | returned hret hle hverdict =>
      rw [Vigil.loopEnds, hphase, hend]
      exact .returned hret hle ((hend ▸ hverdict).loopEnds hle how)

lemma Standing.look (h : v.Standing v.phase) (p : Preference) :
    (v.look p).Standing (v.look p).phase := by
  have hlooked := looked p v
  generalize v.look p = w at hlooked
  cases hlooked with
  | rested => exact h
  | began hphase hnext =>
    rw [hphase] at h
    cases h with
    | fresh hsignal hend hdead hret =>
      rw [hnext]
      refine .serving hsignal (by simp [takeUp, hend]) (by simp [takeUp, Watch.takeUp, hdead]) ?_
      rw [returned_takeUp, hnext, hret]
      rfl
  | signaled hphase hs hnext =>
    rw [hphase] at h
    cases h with
    | serving hsignal hend hdead hret =>
      rw [hnext]
      obtain ⟨s, hs⟩ := Option.isSome_iff_exists.mp (List.isSome_head?.mpr hs)
      obtain rfl := hsignal s hs
      refine .unwinding hs (by simp [takeUp, Watch.takeUp]) (Nat.le_refl _) (Nat.le_add_right _ _)
        hend ?_
      rw [returned_takeUp, hnext, hret]
      rfl
  | @ended t how hphase hend hnext =>
    rw [hphase] at h
    cases h with
    | serving hsignal hended hdead hret =>
      obtain rfl : t = v.now := hended _ hend
      rw [hnext]
      refine .returned (by rw [returned_takeUp, hnext, hret]; rfl) (Nat.le_refl _) ?_
      change Verdict _ _ v.ended _ _
      rw [hend]
      exact .own fun s hs => Nat.le_of_eq (hsignal s hs).symm
  | @unwound t how hphase hend hnext =>
    rw [hphase] at h
    cases h with
    | unwinding hsignal hdead hfrom hto hended hret =>
      obtain rfl : t = v.now := hended _ hend
      rw [hnext]
      refine .returned (by rw [returned_takeUp, hnext, hret]; rfl) (Nat.le_refl _) ?_
      change Verdict _ v.signals.head? v.ended _ _
      rw [hend, hsignal]
      exact .unwound hfrom hto
  | @cutOff d hphase hend hd hle hnext =>
    rw [hphase] at h
    cases h with
    | @unwinding s hsignal hdead hfrom hto hended hret =>
      obtain rfl : s + v.watch.grace = d := Option.some.inj (hdead.symm.trans hd)
      have hnow : v.now = s + v.watch.grace := Nat.le_antisymm hto hle
      rw [hnext]
      refine .returned (by rw [returned_takeUp, hnext, hret]; rfl) (Nat.le_refl _) ?_
      change Verdict v.watch.grace v.signals.head? v.ended v.now _
      rw [hend, hsignal, hnow]
      exact .cutOff (by simp)

lemma Standing.later (h : v.Standing phase) (hphase : v.phase = phase) (hidle : v.Idle) :
    ({ v with now := v.now + 1 } : Vigil).Standing phase := by
  cases h with
  | fresh => exact absurd hphase hidle.phase_ne_initializing
  | serving hsignal hend hdead hret =>
    obtain ⟨hnone, hnil⟩ := hidle.of_serving hphase
    exact .serving (by simp [hnil]) (by simp [hnone]) hdead hret
  | @unwinding s hsignal hdead hfrom hto hend hret =>
    obtain ⟨hnone, hahead⟩ := hidle.of_unwinding hphase
    exact .unwinding hsignal hdead (Nat.le_succ_of_le hfrom) (hahead _ hdead) (by simp [hnone]) hret
  | returned hret hle hverdict => exact .returned hret (Nat.le_succ_of_le hle) hverdict

lemma Sound.step (h : v.Sound) (happening : Happening) : (v.step happening).Sound := by
  cases happening with
  | loopEnds how =>
    have hwatch : (v.loopEnds how).watch = v.watch := by
      rw [Vigil.loopEnds]
      split <;> rfl
    have hphase : (v.loopEnds how).phase = v.phase := congrArg (·.supervisor.phase) hwatch
    constructor
    · change (v.loopEnds how).Standing (v.loopEnds how).phase
      rw [hphase]
      exact h.standing.loopEnds rfl how
    · change (v.loopEnds how).watch.supervisor.tracker.current = (v.loopEnds how).phase.state
      rw [hwatch, hphase, h.current]
  | signal => exact ⟨h.standing.signal, h.current⟩
  | look p =>
    refine ⟨h.standing.look p, ?_⟩
    have hlooked := looked p v
    change (v.look p).watch.supervisor.tracker.current = (v.look p).phase.state
    generalize v.look p = w at hlooked
    cases hlooked with
    | rested => exact h.current
    | _ => exact Supervisor.current_react h.current _
  | tick =>
    change v.tick.Sound
    rw [tick]
    split
    · next hready =>
      exact ⟨h.standing.later rfl (idle_of_ready? (Option.isNone_iff_eq_none.mp hready)), h.current⟩
    · exact h

lemma Sound.run (h : v.Sound) (happenings : List Happening) : (v.run happenings).Sound := by
  induction happenings generalizing v with
  | nil => exact h
  | cons happening rest ih => exact ih (h.step happening)

lemma Standing.returned_eq_none (h : v.Standing phase) (hgoing : ∀ r, phase ≠ .returned r) :
    v.returned = none := by
  cases h with
  | fresh _ _ _ hret => exact hret
  | serving _ _ _ hret => exact hret
  | unwinding _ _ _ _ _ hret => exact hret
  | @returned t r => exact absurd rfl (hgoing r)

lemma Sound.answered (h : v.Sound) {t : Nat} (hret : v.returned = some t) :
    ∃ r, v.answer? = some (t, r) ∧ Verdict v.watch.grace v.signals.head? v.ended t r := by
  have hstanding := h.standing
  cases hphase : v.phase with
  | returned r =>
    rw [hphase] at hstanding
    cases hstanding with
    | returned hsome _ hverdict =>
      obtain rfl := Option.some.inj (hret.symm.trans hsome)
      exact ⟨r, answer?_of_phase hphase hret, hverdict⟩
  | initializing | serving | unwinding =>
    rw [hphase] at hstanding
    have hnone := hstanding.returned_eq_none (by simp)
    exact absurd (hret.symm.trans hnone) (Option.some_ne_none t)

/-- A supervisor that has had its looks has returned, if its loop has ended or its time is up. -/
lemma Sound.returned_of_due (h : v.Sound) (hidle : v.Idle)
    (hdue : v.ended.isSome ∨ ∃ s ∈ v.signals.head?, s + v.watch.grace ≤ v.now) :
    ∃ t, v.returned = some t := by
  have hstanding := h.standing
  cases hphase : v.phase with
  | initializing => exact absurd hphase hidle.phase_ne_initializing
  | serving =>
    obtain ⟨hnone, hnil⟩ := hidle.of_serving hphase
    simp [hnone, hnil] at hdue
  | unwinding =>
    obtain ⟨hnone, hahead⟩ := hidle.of_unwinding hphase
    rw [hphase] at hstanding
    cases hstanding with
    | unwinding hsignal hdead =>
      have hlt := hahead _ hdead
      simp [hnone, hsignal] at hdue
      omega
  | returned r =>
    rw [hphase] at hstanding
    cases hstanding with
    | returned hret => exact ⟨_, hret⟩

/-- Of a loop that has ended before its supervisor returned the end is what this returns. -/
def Reports (v : Vigil) (t : Nat) (how : LoopEnd) : Prop :=
  v.ended = some (t, how) ∧
    (v.returned = none ∨ ∃ signaled, v.answer? = some (t, how.told signaled))

lemma Sound.reports_look (h : v.Sound) {t : Nat} {how : LoopEnd} (hr : v.Reports t how)
    (p : Preference) : (v.look p).Reports t how := by
  have hlooked := looked p v
  have hstanding := h.standing
  obtain ⟨hend, hret⟩ := hr
  generalize v.look p = w at hlooked
  cases hlooked with
  | rested => exact ⟨hend, hret⟩
  | began hphase hnext =>
    rw [hphase] at hstanding
    refine ⟨hend, Or.inl ?_⟩
    rw [returned_takeUp, hnext, hstanding.returned_eq_none (by simp)]
    rfl
  | signaled hphase hs hnext =>
    rw [hphase] at hstanding
    refine ⟨hend, Or.inl ?_⟩
    rw [returned_takeUp, hnext, hstanding.returned_eq_none (by simp)]
    rfl
  | ended hphase hended hnext =>
    rw [hphase] at hstanding
    cases hstanding with
    | serving _ hnow _ hnone =>
      obtain ⟨rfl, rfl⟩ := Prod.mk.inj (Option.some.inj (hend.symm.trans hended))
      obtain rfl := hnow _ hend
      refine ⟨hend, Or.inr ⟨false, answer?_of_phase hnext ?_⟩⟩
      rw [returned_takeUp, hnext, hnone]
      rfl
  | unwound hphase hended hnext =>
    rw [hphase] at hstanding
    cases hstanding with
    | unwinding _ _ _ _ hnow hnone =>
      obtain ⟨rfl, rfl⟩ := Prod.mk.inj (Option.some.inj (hend.symm.trans hended))
      obtain rfl := hnow _ hend
      refine ⟨hend, Or.inr ⟨true, answer?_of_phase hnext ?_⟩⟩
      rw [returned_takeUp, hnext, hnone]
      rfl
  | cutOff _ hnone => exact absurd (hend.symm.trans hnone) (Option.some_ne_none _)

lemma Sound.reports_step (h : v.Sound) {t : Nat} {how : LoopEnd} (hr : v.Reports t how)
    (happening : Happening) : (v.step happening).Reports t how := by
  cases happening with
  | loopEnds how' =>
    have hsame : v.step (.loopEnds how') = v := by
      rw [Vigil.step, Vigil.loopEnds, hr.1]
      cases v.phase <;> rfl
    rwa [hsame]
  | signal => exact hr
  | look p => exact h.reports_look hr p
  | tick =>
    change v.tick.Reports t how
    rw [tick]
    split
    · next hready =>
      obtain ⟨u, hret⟩ := h.returned_of_due (idle_of_ready? (Option.isNone_iff_eq_none.mp hready))
        (Or.inl (by simp [hr.1]))
      refine ⟨hr.1, Or.inr (hr.2.resolve_left ?_)⟩
      simp [hret]
    · exact hr

lemma Sound.reports_run (h : v.Sound) {t : Nat} {how : LoopEnd} (hr : v.Reports t how)
    (happenings : List Happening) : (v.run happenings).Reports t how := by
  induction happenings generalizing v with
  | nil => exact hr
  | cons happening rest ih => exact ih (h.step happening) (h.reports_step hr happening)

/-- Whatever happens, and whichever of two things that are ready is taken up: the loop's own end
before the first signal is what the supervisor returns; so is an end between the signal and the
deadline; and a loop that goes on until then is cut off at that instant. An end that finds the
supervisor still there is never passed over, whatever comes later, and signals after the first show
in nothing. -/
theorem answer_by_instants (plan : Simulation.Plan) (service : Service) (start : Nat)
    (happenings later : List Happening) (a b c : Preference) :
    let grace := plan.grace.getD (1000 * service.settings.shutdownTimeoutSecs.toNat)
    let u := (begin start (plan.graceFor service)).run happenings
    let v := u.run (later ++ [.look a, .look b, .look c])
    (∀ t how, v.ended = some (t, how) → (∀ s ∈ v.signals.head?, t < s) →
      v.answer? = some (t, how.told false)) ∧
    (∀ s t how, v.signals.head? = some s → v.ended = some (t, how) → s < t → t < s + grace →
      v.answer? = some (t, how.told true)) ∧
    (∀ s, v.signals.head? = some s → (∀ t how, v.ended = some (t, how) → s + grace < t) →
      s + grace ≤ v.now → v.answer? = some (s + grace, .ok ⟨true, true⟩)) ∧
    (∀ t how, u.returned = none → u.ended = some (t, how) →
      ∃ signaled, v.answer? = some (t, how.told signaled) ∧
        v.watch.supervisor.tracker.current = how.lastState) ∧
    (u.signals ≠ [] →
      ∃ signals, (u.step .signal).run later = { u.run later with signals }) := by
  intro grace u v
  have hu : u.Sound := (sound_begin _ _).run happenings
  have hv : v.Sound := hu.run _
  have hgrace : v.watch.grace = grace := (grace_run _ _).trans (grace_run _ _)
  have hidle : v.Idle := by
    change (u.run (later ++ [a, b, c].map .look)).Idle
    rw [run_append]
    exact idle_run_looks _ (looksLeft_le _)
  have hdue (hd : v.ended.isSome ∨ ∃ s ∈ v.signals.head?, s + grace ≤ v.now) :
      ∃ t r, v.answer? = some (t, r) ∧ Verdict grace v.signals.head? v.ended t r := by
    obtain ⟨t, hret⟩ := hv.returned_of_due hidle (hgrace ▸ hd)
    obtain ⟨r, hanswer, hverdict⟩ := hv.answered hret
    exact ⟨t, r, hanswer, hgrace ▸ hverdict⟩
  refine ⟨?_, ?_, ?_, ?_, ?_⟩
  · intro t how hend hbefore
    obtain ⟨u, r, hanswer, hverdict⟩ := hdue (Or.inl (by simp [hend]))
    obtain ⟨rfl, rfl⟩ := (hend ▸ hverdict).of_before hbefore
    exact hanswer
  · intro s t how hsignal hend hfrom hto
    obtain ⟨u, r, hanswer, hverdict⟩ := hdue (Or.inl (by simp [hend]))
    obtain ⟨rfl, rfl⟩ := (hsignal ▸ hend ▸ hverdict).of_between hfrom hto
    exact hanswer
  · intro s hsignal hbeyond hnow
    obtain ⟨u, r, hanswer, hverdict⟩ := hdue (Or.inr ⟨s, hsignal, hnow⟩)
    obtain ⟨rfl, rfl⟩ := (hsignal ▸ hverdict).of_beyond hbeyond
    exact hanswer
  · intro t how hret hend
    obtain ⟨hended, hreport⟩ :=
      hu.reports_run ⟨hend, Or.inl hret⟩ (later ++ [.look a, .look b, .look c])
    obtain ⟨t', hreturned⟩ := hv.returned_of_due hidle (Or.inl (by simp [v, hended]))
    obtain ⟨signaled, hanswer⟩ := hreport.resolve_left (by rw [hreturned]; simp)
    refine ⟨signaled, hanswer, ?_⟩
    rw [hv.current, phase_of_answer? hanswer, Supervisor.Phase.state, Supervisor.stateOf_told]
  · intro hs
    exact run_of_signaled hs (by simp) later

/-- Without any grace, a crash at the instant of the signal. -/
example (p : Preference) :
    ((begin 0 0).run [.look p, .signal, .loopEnds .crashed, .look p, .look p]).answer? =
      some (0, .error .runLoopCrashed) := by
  cases p <;> rfl

end Vigil

end DeviceFleet
