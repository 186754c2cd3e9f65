import DeviceFleet.Agent.RunLoop
import DeviceFleet.Proofs.Fleet.Amid
import DeviceFleet.Proofs.Fleet.Stamps

/-! A registration creates a record, and updates the one that is there if its key is taken. Between
these two calls other clients may take the record away. -/

namespace DeviceFleet

namespace Record

def stamped (now : Timestamp) (r : Record) : Record := { r with createdAt := now, modifiedAt := now }

/-- The record with the tags and the control plane of another. -/
def revised (now : Timestamp) (r old : Record) : Record :=
  { old with
    tags := r.tags
    controlPlane := r.controlPlane
    modifiedAt := Timestamp.latest now old.modifiedAt }

end Record

namespace Store

variable {s : Store} {r old : Record}

lemma create_of_free (hr : r.key.check = .ok ()) (h : s.record? r.key = none) (now : Timestamp) :
    (s.create now r).1 = .ok (r.stamped now) := by
  simp only [create, hr, enroll_of_free now h]
  rfl

lemma create_of_held (hr : r.key.check = .ok ()) (h : s.record? r.key = some old)
    (now : Timestamp) : s.create now r = (.error (.alreadyExists r.key), s) := by
  simp only [create, hr, enroll_of_taken now h]

lemma update_of_free (hr : r.key.check = .ok ()) (h : s.record? r.key = none) (now : Timestamp) :
    s.update now r = (.error (.notFound r.key), s) := by
  simp only [update, hr, revise_of_free now h]

lemma update_of_held (hr : r.key.check = .ok ()) (h : s.record? r.key = some old)
    (now : Timestamp) : (s.update now r).1 = .ok (r.revised now old) := by
  simp only [update, hr, revise, h]
  rfl

lemma record?_create_of_free (hr : r.key.check = .ok ()) (h : s.record? r.key = none)
    (now : Timestamp) (k : Key) :
    (s.create now r).2.record? k = if k = r.key then some (r.stamped now) else s.record? k := by
  rw [record?_create]
  split
  · next hk =>
    subst hk
    simp only [Request.leaves, Request.key, hr, h]
    rfl
  · rfl

lemma record?_update_of_held (hr : r.key.check = .ok ()) (h : s.record? r.key = some old)
    (now : Timestamp) (k : Key) :
    (s.update now r).2.record? k = if k = r.key then some (r.revised now old) else s.record? k := by
  rw [record?_update]
  split
  · next hk =>
    subst hk
    simp only [Request.leaves, Request.key, hr, h]
    rfl
  · rfl

end Store

section Amid

variable {r : Record} {c : Crowd}

lemma runAmid_register_of_free (hr : r.key.check = .ok ()) (clock : Nat → Timestamp) (n : Nat)
    (pauses : List (List Turn))
    (h : (c.run (pauses.headD [])).shared.store.record? r.key = none) :
    let met := (c.run (pauses.headD [])).shared.store
    let ran := (register r).runAmid clock n pauses c
    ran.2.1 = .ok (r.stamped (clock n)) ∧ ran.2.2.shared.store = (met.create (clock n) r).2 := by
  have hcreate := Store.create_of_free hr h (clock n)
  simp only [register, Client.runAmid, Store.perform]
  rw [hcreate]
  exact ⟨rfl, rfl⟩

/-- The second call finds the store that others have left since the first. -/
lemma runAmid_register_of_held (hr : r.key.check = .ok ()) (clock : Nat → Timestamp) (n : Nat)
    (pauses : List (List Turn)) {old : Record}
    (h : (c.run (pauses.headD [])).shared.store.record? r.key = some old) :
    let met := ((c.run (pauses.headD [])).run (pauses.tail.headD [])).shared.store
    let ran := (register r).runAmid clock n pauses c
    ran.2.1 = (met.update (clock (n + 1)) r).1.mapError .registration ∧
      ran.2.2.shared.store = (met.update (clock (n + 1)) r).2 := by
  have hcreate := Store.create_of_held hr h (clock n)
  simp only [register, Client.runAmid, Store.perform]
  rw [hcreate]
  simp only [Client.runAmid, Store.perform]
  generalize Store.update _ r _ = answered
  obtain ⟨result, store⟩ := answered
  cases result <;> exact ⟨rfl, rfl⟩

lemma takenOut_of_lost {k : Key} {old : Record} {later : List Turn}
    (h : c.shared.store.record? k = some old) (hlost : (c.run later).shared.store.record? k = none) :
    .takenOut k ∈ c.history later := by
  by_contra hkept
  obtain ⟨r, hr, _⟩ := Crowd.record_stays later h hkept
  simp [hlost] at hr

/-- Other clients may take any steps of any calls before and between the calls of a registration. It
fails if, and only if, it finds its key taken and the record gone when it comes to update it, so that
one of them has taken it out meanwhile; else the record that it returns is there for all to fetch. -/
theorem register_amid_others (qs : List Request) (before : List Turn) (pauses : List (List Turn))
    (clock : Nat → Timestamp) (r : Record) (hr : r.key.check = .ok ()) :
    let start := (Crowd.ofRequests .empty qs).run before
    let first := start.run (pauses.headD [])
    let second := first.run (pauses.tail.headD [])
    let lost := first.shared.store.record? r.key ≠ none ∧ second.shared.store.record? r.key = none
    let ran := (register r).runAmid clock 0 pauses start
    (lost → ran.2.1 = .error (.registration (.notFound r.key)) ∧
        .takenOut r.key ∈ first.history (pauses.tail.headD [])) ∧
      (¬ lost → ∃ v, ran.2.1 = .ok v ∧ ran.2.2.shared.store.get r.key = .ok v ∧
        v.sameContent r) := by
  intro start first second lost ran
  have hsound : Crowd.Sound _ start := (Crowd.sound_ofRequests qs).run before
  have hthere : first.shared.store.Filed := (hsound.run (pauses.headD [])).filed
  have hlater : second.shared.store.Filed :=
    ((hsound.run (pauses.headD [])).run (pauses.tail.headD [])).filed
  cases hfirst : first.shared.store.record? r.key with
  | none =>
    obtain ⟨hresult, hstored⟩ := runAmid_register_of_free hr clock 0 pauses hfirst
    have hafter := Store.record?_create_of_free hr hfirst (clock 0) r.key
    rw [if_pos rfl] at hafter
    refine ⟨fun hlost => absurd hfirst hlost.1, fun _ => ⟨r.stamped (clock 0), hresult, ?_, ?_⟩⟩
    · rw [hstored]
      exact Store.get_of_record? (hthere.perform (clock 0) (.create r)) hafter
    · simp [Record.sameContent, Record.stamped]
  | some old =>
    obtain ⟨hresult, hstored⟩ := runAmid_register_of_held hr clock 0 pauses hfirst
    cases hsecond : second.shared.store.record? r.key with
    | none =>
      rw [Store.update_of_free hr hsecond (clock 1)] at hresult
      refine ⟨fun _ => ⟨hresult, takenOut_of_lost hfirst hsecond⟩, fun hkept => absurd ?_ hkept⟩
      exact ⟨by simp [hfirst], hsecond⟩
    | some there =>
      have hafter := Store.record?_update_of_held hr hsecond (clock 1) r.key
      rw [if_pos rfl] at hafter
      rw [Store.update_of_held hr hsecond (clock 1)] at hresult
      refine ⟨fun hlost => absurd (hsecond.symm.trans hlost.2) nofun, fun _ =>
        ⟨r.revised (clock 1) there, hresult, ?_, ?_⟩⟩
      · rw [hstored]
        exact Store.get_of_record? (hlater.perform (clock 1) (.update r)) hafter
      · obtain ⟨htenant, hname⟩ := Key.mk.inj (hlater.own hsecond)
        simp [Record.sameContent, Record.revised, htenant, hname]

/-- The record is deleted and created anew by others between the two calls. -/
theorem register_amid_others_acme :
    let r := (Record.new "acme" "dev-1").withTag "site" "lab"
    let qs : List Request := [.create (.new "acme" "dev-1"), .delete ⟨"acme", "dev-1"⟩,
      .create (.new "acme" "dev-1")]
    let turns (is : List Nat) : List Turn := is.map fun i => (i, .epoch)
    let pauses := [[], turns [1, 1, 1, 1, 2, 2]]
    let start := (Crowd.ofRequests .empty qs).run (turns [0, 0])
    let ran := (register r).runAmid (fun _ => .epoch) 0 pauses start
    r.key.check = .ok () ∧ start.shared.store.record? r.key ≠ none ∧
      ∃ v, ran.2.1 = .ok v ∧ ran.2.2.shared.store.get r.key = .ok v ∧ v.sameContent r := by
  intro r qs turns pauses start ran
  have hvalid : r.key.check = .ok () := by decide
  have hheld : start.shared.store.record? r.key ≠ none := by decide
  refine ⟨hvalid, hheld, ?_⟩
  apply (register_amid_others qs (turns [0, 0]) pauses (fun _ => .epoch) r hvalid).2
  rintro ⟨_, hgone⟩
  exact absurd hgone (by decide)

/-- A deletion that has taken the record out between the two calls makes the registration fail. -/
theorem register_lost :
    let r := Record.new "acme" "dev-1"
    let start := (Crowd.ofRequests .empty [.create r, .delete r.key]).run [(0, .epoch), (0, .epoch)]
    r.key.check = .ok () ∧
      ((register r).runAmid (fun _ => .epoch) 0 [[], [(1, .epoch)]] start).2.1 =
        .error (.registration (.notFound r.key)) := by
  decide

end Amid

end DeviceFleet
