import DeviceFleet.Fleet.Request
import Mathlib.Tactic.Lemma

/-! Sequences of calls, each with the clock at its time, and the replies to them. -/

namespace DeviceFleet

abbrev Call := Timestamp × Request

abbrev Reply := (q : Request) × q.Result

def runCalls (perform : Timestamp → σ → (q : Request) → q.Result × σ) : List Call → σ → List Reply × σ
  | [], s => ([], s)
  | (now, q) :: rest, s =>
    let (r, s) := perform now s q
    let (rs, s) := runCalls perform rest s
    (⟨q, r⟩ :: rs, s)

variable {σ τ : Type} {perform : Timestamp → σ → (q : Request) → q.Result × σ}
  {reference : Timestamp → τ → (q : Request) → q.Result × τ}

theorem runCalls_cons (now : Timestamp) (q : Request) (rest : List Call) (s : σ) :
    runCalls perform ((now, q) :: rest) s =
      (⟨q, (perform now s q).1⟩ :: (runCalls perform rest (perform now s q).2).1,
        (runCalls perform rest (perform now s q).2).2) := rfl

lemma requests_runCalls (calls : List Call) (s : σ) :
    (runCalls perform calls s).1.map Sigma.fst = calls.map Prod.snd := by
  induction calls generalizing s with
  | nil => rfl
  | cons call rest ih =>
    obtain ⟨now, q⟩ := call
    rw [runCalls_cons, List.map_cons, List.map_cons, ih]

lemma runCalls_take (calls : List Call) (n : Nat) (s : σ) :
    (runCalls perform (calls.take n) s).1 = (runCalls perform calls s).1.take n := by
  induction calls generalizing n s with
  | nil => simp [runCalls]
  | cons call rest ih =>
    obtain ⟨now, q⟩ := call
    cases n with
    | zero => rfl
    | succ n => rw [List.take_succ_cons, runCalls_cons, runCalls_cons, List.take_succ_cons, ih]

/-- A reply is what its call gives at the store that the calls before have left. -/
lemma exists_call_of_reply (calls : List Call) {i : Nat} {s : σ} {reply : Reply}
    (h : (runCalls perform calls s).1[i]? = some reply) :
    ∃ now q, let met := (runCalls perform (calls.take i) s).2
      reply = ⟨q, (perform now met q).1⟩ ∧
        (runCalls perform (calls.take (i + 1)) s).2 = (perform now met q).2 := by
  induction calls generalizing i s with
  | nil => simp [runCalls] at h
  | cons call rest ih =>
    obtain ⟨now, q⟩ := call
    rw [runCalls_cons] at h
    cases i with
    | zero => exact ⟨now, q, (Option.some.inj h).symm, rfl⟩
    | succ i => exact ih h

lemma runCalls_keeps {P : σ → Prop} (hstep : ∀ now s q, P s → P (perform now s q).2)
    (calls : List Call) {s : σ} (h : P s) : P (runCalls perform calls s).2 := by
  induction calls generalizing s with
  | nil => exact h
  | cons call rest ih => exact ih (hstep call.1 s call.2 h)

/-- What agrees call by call agrees over every run. -/
theorem runCalls_agree {R : σ → τ → Prop}
    (hstep : ∀ now s t q, R s t →
      (perform now s q).1 = (reference now t q).1 ∧ R (perform now s q).2 (reference now t q).2)
    (calls : List Call) {s : σ} {t : τ} (h : R s t) :
    (runCalls perform calls s).1 = (runCalls reference calls t).1 ∧
      R (runCalls perform calls s).2 (runCalls reference calls t).2 := by
  induction calls generalizing s t with
  | nil => exact ⟨rfl, h⟩
  | cons call rest ih =>
    obtain ⟨now, q⟩ := call
    obtain ⟨hreply, hafter⟩ := hstep now s t q h
    obtain ⟨hrest, hfinal⟩ := ih hafter
    refine ⟨?_, hfinal⟩
    rw [runCalls_cons, runCalls_cons, hreply, hrest]

/-- Where calls that are left out cannot be noticed, the replies to those that are looked at stay as
they are. -/
theorem runCalls_filter (keeps shows : Request → Bool) (R : σ → σ → Prop)
    (hkept : ∀ now s t q, keeps q = true → R s t → R (perform now s q).2 (perform now t q).2)
    (hleft : ∀ now s t q, keeps q = false → R s t → R (perform now s q).2 t)
    (hshown : ∀ now s t q, shows q = true → R s t → (perform now s q).1 = (perform now t q).1)
    (hkeeps : ∀ q, shows q = true → keeps q = true) (calls : List Call) {s t : σ} (h : R s t) :
    let ran := runCalls perform calls s
    let reduced := runCalls perform (calls.filter fun c => keeps c.2) t
    ran.1.filter (fun r => shows r.1) = reduced.1.filter (fun r => shows r.1) ∧
      R ran.2 reduced.2 := by
  induction calls generalizing s t with
  | nil => exact ⟨rfl, h⟩
  | cons call rest ih =>
    obtain ⟨now, q⟩ := call
    cases hk : keeps q with
    | true =>
      obtain ⟨hreplies, hafter⟩ := ih (hkept now s t q hk h)
      simp only [List.filter_cons, hk, if_true, runCalls_cons, hreplies]
      refine ⟨?_, hafter⟩
      split
      · next hs => rw [hshown now s t q hs h]
      · rfl
    | false =>
      have hs : shows q = false := by
        rw [Bool.eq_false_iff] at hk ⊢
        exact fun hs => hk (hkeeps q hs)
      obtain ⟨hreplies, hafter⟩ := ih (hleft now s t q hk h)
      simp only [List.filter_cons, hk, hs, Bool.false_eq_true, if_false, runCalls_cons]
      exact ⟨hreplies, hafter⟩

end DeviceFleet
