import DeviceFleet.Proofs.Fleet.Retries

/-! Walks to the end in one go. One that fails hands out nothing, but leaves its pager behind the pages
that it has fetched; the next one goes on from there, and so these pages are lost. -/

namespace DeviceFleet.Pager

open Text

variable {s : Store} {tenant : String} {size : Nat} {shown : List Record} {p : Pager}

/-- A walk to the end some of whose calls fail, with the records that it has got already. -/
def collect (s : Store) (got : List Record) (pages : Nat) (failures : List (Option StoreError))
    (p : Pager) : Collection × Pager := ((collectFrom got pages p).attempt s failures).2

lemma collect_succ (s : Store) (got : List Record) (pages : Nat)
    (failures : List (Option StoreError)) (p : Pager) :
    collect s got (pages + 1) failures p =
      match (p.ask s (failures.headD none)).2 with
      | (.error e, p) => (some (.error e), p)
      | (.ok none, p) => (some (.ok got), p)
      | (.ok (some records), p) => collect s (got ++ records) pages failures.tail p := by
  have hcall (token : Option PageToken) :
      ((((Client.call (.list p.tenant token p.pageSize) fun r => .done (p.receive r)).bind
        (proceed got pages)).attempt s failures).2 : Collection × Pager) =
      ((proceed got pages (p.receive (s.answer (.list p.tenant token p.pageSize)
        (failures.headD none)))).attempt s failures.tail).2 := rfl
  rw [collect, collectFrom_succ, ask, nextPage]
  cases p.cursor with
  | finished => rfl
  | start | after t =>
    simp only [hcall, Client.attempt, List.headD_cons]
    generalize p.receive _ = received
    obtain ⟨step, p⟩ := received
    cases step with
    | error e => rfl
    | ok page => cases page <;> rfl

/-- What a walk comes to: with enough pages allowed it gives all that remains, or it fails and has
passed over all that it got before, which is nothing only if its first call failed. -/
inductive Collected (s : Store) (tenant : String) (size : Nat) (shown got : List Record)
    (failures : List (Option StoreError)) : Collection × Pager → Prop
  | whole {rest : List Record} : shown ++ rest = s.recordsAfter tenant none →
      Collected s tenant size shown got failures
        (some (.ok (got ++ rest)), ⟨tenant, size, .finished⟩)
  | failed {e : StoreError} {dropped : List Record} {p : Pager} : some e ∈ failures →
      Stands s tenant size (shown ++ dropped, p) →
      (dropped = [] ↔ failures.headD none ≠ none) →
      Collected s tenant size shown got failures (some (.error e), p)

lemma Collected.of_end {got : List Record} {failures : List (Option StoreError)}
    (hwhole : shown = s.recordsAfter tenant none) :
    Collected s tenant size shown got failures (some (.ok got), ⟨tenant, size, .finished⟩) := by
  have h : Collected s tenant size shown got failures
      (some (.ok (got ++ [])), ⟨tenant, size, .finished⟩) :=
    .whole ((List.append_nil shown).trans hwhole)
  rwa [List.append_nil] at h

lemma Collected.of_page {got page : List Record} {failures : List (Option StoreError)}
    {c : Collection × Pager} (hpage : page ≠ []) (hpass : failures.headD none = none)
    (h : Collected s tenant size (shown ++ page) (got ++ page) failures.tail c) :
    Collected s tenant size shown got failures c := by
  cases h with
  | @whole rest hrest =>
    rw [List.append_assoc] at hrest ⊢
    exact .whole hrest
  | @failed e dropped p he hstands _ =>
    rw [List.append_assoc] at hstands
    exact .failed (List.mem_of_mem_tail he) hstands
      (iff_of_false (by simp [hpage]) (not_not.mpr hpass))

lemma Stands.collected (hs : s.Filed) (ht : isBlank tenant = false)
    (h : Stands s tenant size (shown, p)) (got : List Record) {pages : Nat}
    (hpages : (s.recordsAfter tenant none).length < shown.length + pages)
    (failures : List (Option StoreError)) :
    Collected s tenant size shown got failures (collect s got pages failures p) := by
  -- Each page but the last shows some of the records that remain.
  induction pages generalizing shown got p failures with
  | zero => exact absurd h.isPrefix.length_le (Nat.not_le.mpr hpages)
  | succ pages ih =>
    rw [collect_succ]
    cases hfailure : failures.headD none with
    | none =>
      rcases h.step hs ht with ⟨page, hne, hstep, hstands⟩ | ⟨hend, hwhole⟩
      · generalize (p.ask s none).2 = asked at hstep hstands
        obtain ⟨step, q⟩ := asked
        obtain rfl : step = .ok (some page) := hstep
        have hpos : 0 < page.length := List.length_pos_iff.mpr hne
        refine .of_page hne hfailure (ih hstands (got ++ page) ?_ failures.tail)
        rw [List.length_append]
        omega
      · rw [hend]
        exact .of_end hwhole
    | some e =>
      rcases h.failed e with hended | ⟨token, hasked⟩
      · obtain ⟨hwhole, hfinished⟩ := h.whole_of_none hs ht (congrArg (·.2.1) hended)
        obtain rfl : p = ⟨tenant, size, .finished⟩ := by simpa only [hended] using hfinished
        exact .of_end hwhole
      · have hmem : some e ∈ failures := by
          cases failures with
          | nil => cases hfailure
          | cons failure rest => exact hfailure ▸ List.mem_cons_self
        have hstands : Stands s tenant size (shown ++ [], p) := by rwa [List.append_nil]
        rw [hasked]
        exact .failed hmem hstands (iff_of_true rfl (hfailure ▸ Option.some_ne_none e))

/-- Walks to the end again and again until one does not fail, without starting anew; with the ones
that failed, each as the list of its calls' failures. -/
def retry (s : Store) (pages : Nat) :
    List (List (Option StoreError)) → Pager → List (List (Option StoreError)) × Collection × Pager
  | [], p => ([], collect s [] pages [] p)
  | failures :: rest, p =>
    match collect s [] pages failures p with
    | (some (.error _), p) =>
      let (failed, last) := retry s pages rest p
      (failures :: failed, last)
    | last => ([], last)

lemma Stands.retried (hs : s.Filed) (ht : isBlank tenant = false)
    (h : Stands s tenant size (shown, p)) {pages : Nat}
    (hpages : (s.recordsAfter tenant none).length < pages)
    (attempts : List (List (Option StoreError))) :
    ∃ failed dropped rest,
      p.retry s pages attempts = (failed, some (.ok rest), ⟨tenant, size, .finished⟩) ∧
      shown ++ dropped ++ rest = s.recordsAfter tenant none ∧
      (dropped = [] ↔ ∀ failures ∈ failed, failures.headD none ≠ none) := by
  have hcollected (shown : List Record) (p : Pager) (h : Stands s tenant size (shown, p))
      (failures : List (Option StoreError)) :
      Collected s tenant size shown [] failures (collect s [] pages failures p) :=
    h.collected hs ht [] (Nat.lt_add_left _ hpages) failures
  induction attempts generalizing shown p with
  | nil =>
    have hlast := hcollected shown p h []
    rw [retry]
    generalize collect s [] pages [] p = c at hlast
    cases hlast with
    | whole hrest => exact ⟨[], [], _, rfl, by rwa [List.append_nil], by simp⟩
    | failed he => exact absurd he List.not_mem_nil
  | cons failures rest ih =>
    have hfirst := hcollected shown p h failures
    rw [retry]
    generalize collect s [] pages failures p = c at hfirst
    cases hfirst with
    | whole hrest => exact ⟨[], [], _, rfl, by rwa [List.append_nil], by simp⟩
    | @failed e dropped q _ hstands hnone =>
      obtain ⟨failed, later, remaining, hretry, hwhole, hlater⟩ := ih hstands
      refine ⟨failures :: failed, dropped ++ later, remaining, by simp only [hretry], ?_, ?_⟩
      · rw [← hwhole, ← List.append_assoc shown]
      · rw [List.append_eq_nil_iff, hnone, hlater, List.forall_mem_cons]

/-- Whatever was done with a pager before, walks to the end that are tried until one does not fail give,
with what the pager has given before, the whole listing just when each failed one has failed at its
first call. What the failed ones have fetched else is missing, and nothing else is. -/
theorem whole_if_none_fetched (qs : List Request) (turns : List Turn) (tenant : String)
    (ht : isBlank tenant = false) (size : Nat) (us : List Use)
    (attempts : List (List (Option StoreError))) :
    let s := ((Crowd.ofRequests .empty qs).run turns).shared.store
    let x := Progress.uses s ([], new tenant size) us
    ∃ listing : List Record,
      (∀ r, r ∈ listing ↔ s.get ⟨tenant, r.name⟩ = .ok r) ∧
      (listing.Pairwise fun a b => Utf8.bytes a.name < Utf8.bytes b.name) ∧
      ∀ spare, ∃ failed dropped rest,
        x.2.retry s (listing.length + 1 + spare) attempts =
          (failed, some (.ok rest), ⟨tenant, size, .finished⟩) ∧
        x.1 ++ dropped ++ rest = listing ∧
        (x.1 ++ rest = listing ↔ ∀ failures ∈ failed, failures.headD none ≠ none) := by
  intro s x
  have hs : s.Filed := ((Crowd.sound_ofRequests qs).run turns).filed
  have hx : Stands s tenant size (x.1, x.2) := (stands_new s tenant size).uses hs ht us
  refine ⟨s.recordsAfter tenant none, fun r => ?_, ?_, fun spare => ?_⟩
  · rw [Store.mem_recordsAfter hs]
    exact ⟨fun h => Store.get_of_record? hs h.1, fun h => ⟨Store.record?_of_get h, nofun⟩⟩
  · simpa only [Utf8.bytes_lt_iff] using Store.recordsAfter_ascending hs tenant none
  · have hpages : (s.recordsAfter tenant none).length <
        (s.recordsAfter tenant none).length + 1 + spare := by omega
    obtain ⟨failed, dropped, rest, hretry, hwhole, hnone⟩ := hx.retried hs ht hpages attempts
    refine ⟨failed, dropped, rest, hretry, hwhole, ?_⟩
    rw [← hnone, ← hwhole]
    simp

/-- One page is asked for; then three walks fail, the second of them behind a page. -/
theorem whole_if_none_fetched_acme :
    let qs : List Request := [.create (.new "acme" "dev-1"), .create (.new "acme" "dev-2"),
      .create (.new "acme" "dev-3")]
    let turns : List Turn := [0, 0, 1, 1, 2, 2].map fun i => (i, .epoch)
    let s := ((Crowd.ofRequests .empty qs).run turns).shared.store
    let busy := some (StoreError.invalidKey "busy")
    let x := Progress.uses s ([], new "acme" 1) [.next none]
    isBlank "acme" = false ∧ x.1.map Record.name = ["dev-1"] ∧ ∃ listing : List Record,
      (∀ r, r ∈ listing ↔ s.get ⟨"acme", r.name⟩ = .ok r) ∧ ∃ failed dropped rest,
        x.2.retry s (listing.length + 1) [[busy], [none, busy], [busy]] =
          (failed, some (.ok rest), ⟨"acme", 1, .finished⟩) ∧
        x.1 ++ dropped ++ rest = listing := by
  intro qs turns s busy x
  have htenant : isBlank "acme" = false := by decide
  have hgiven : x.1.map Record.name = ["dev-1"] := by decide +kernel
  obtain ⟨listing, hmem, _, hretried⟩ := whole_if_none_fetched qs turns "acme" htenant 1 [.next none]
    [[busy], [none, busy], [busy]]
  obtain ⟨failed, dropped, rest, hretry, hwhole, _⟩ := hretried 0
  exact ⟨htenant, hgiven, listing, hmem, failed, dropped, rest, hretry, hwhole⟩

/-- The store fails the second of two calls: the records of the first page are handed out neither by
this walk nor by the next. -/
theorem collect_drops_page :
    let qs : List Request := [.create (.new "acme" "dev-1"), .create (.new "acme" "dev-2"),
      .create (.new "acme" "dev-3")]
    let turns : List Turn := [0, 0, 1, 1, 2, 2].map fun i => (i, .epoch)
    let s := ((Crowd.ofRequests .empty qs).run turns).shared.store
    let (failed, last, p) := (new "acme" 2).retry s 4 [[none, some (.invalidKey "scripted")]]
    failed.length = 1 ∧ p.cursor = .finished ∧
      (s.recordsAfter "acme" none).map Record.name = ["dev-1", "dev-2", "dev-3"] ∧
      last.map (·.map (·.map Record.name)) = some (.ok ["dev-3"]) := by
  decide +kernel

end DeviceFleet.Pager
