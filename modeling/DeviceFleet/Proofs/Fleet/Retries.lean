import DeviceFleet.Proofs.Fleet.Following

/-! A walk some of whose calls fail. What it has given is the beginning of the listing, whichever calls
they are, and it goes on where it was when it is asked again. -/

namespace DeviceFleet

open Text

/-- The answer to a call, which may be made to fail. Listings take no reading of the clock. -/
def Store.answer (s : Store) (q : Request) : Option StoreError → q.Result
  | some e => .error e
  | none => (s.perform .epoch q).1

/-- Runs a client on a store that its calls leave as it is. Some calls fail, as the list says; all that
come after its end go through. -/
def Client.attempt {α : Type} (s : Store) : List (Option StoreError) → Client α → List Request × α
  | _, .done a => ([], a)
  | failures, .call q next =>
    let (qs, a) := (next (s.answer q (failures.headD none))).attempt s failures.tail
    (q :: qs, a)

namespace Pager

variable {s : Store} {tenant : String} {size : Nat} {after : Option String} {shown : List Record}
  {p : Pager}

/-- What is done with a pager: its next page is asked for, which may fail, or its walk begins anew. -/
inductive Use
  | next (failure : Option StoreError)
  | restart

/-- The calls that are made for the next page, and what comes of it. -/
def ask (s : Store) (failure : Option StoreError) (p : Pager) : List Request × Step × Pager :=
  p.nextPage.attempt s [failure]

def given : Step → List Record
  | .ok (some records) => records
  | _ => []

/-- A pager with all that it has given since the start of its walk. -/
abbrev Progress := List Record × Pager

def Progress.use (s : Store) (x : Progress) : Use → Progress
  | .next failure =>
    let (_, step, p) := x.2.ask s failure
    (x.1 ++ given step, p)
  | .restart => ([], x.2.restart)

def Progress.uses (s : Store) (x : Progress) (us : List Use) : Progress := us.foldl (use s) x

/-- What has been given and what lies beyond the place reached make up the listing. -/
inductive Stands (s : Store) (tenant : String) (size : Nat) : Progress → Prop
  | beyond {shown : List Record} {after : Option String} (hafter : ∀ a ∈ after, a ≠ "")
      (hshown : s.recordsAfter tenant none = shown ++ s.recordsAfter tenant after) :
      Stands s tenant size (shown, ⟨tenant, size, .beyond after⟩)
  | finished : Stands s tenant size (s.recordsAfter tenant none, ⟨tenant, size, .finished⟩)

lemma Stands.isPrefix {x : Progress} (h : Stands s tenant size x) :
    x.1 <+: s.recordsAfter tenant none := by
  cases h with
  | beyond _ hshown => exact ⟨_, hshown.symm⟩
  | finished => exact List.prefix_rfl

lemma stands_new (s : Store) (tenant : String) (size : Nat) :
    Stands s tenant size ([], new tenant size) := by
  have hnone : ∀ a ∈ (none : Option String), a ≠ "" := nofun
  exact .beyond hnone rfl

lemma Stands.restart {x : Progress} (h : Stands s tenant size x) :
    Stands s tenant size ([], x.2.restart) := by
  cases h <;> exact stands_new s tenant size

lemma ask_finished (s : Store) (failure : Option StoreError) (tenant : String) (size : Nat) :
    ask s failure ⟨tenant, size, .finished⟩ = ([], .ok none, ⟨tenant, size, .finished⟩) := rfl

lemma ask_of_failure (s : Store) (e : StoreError) (tenant : String) (size : Nat)
    (after : Option String) :
    ask s (some e) ⟨tenant, size, .beyond after⟩ =
      ([.list tenant (after.map PageToken.after) size], .error e,
        ⟨tenant, size, .beyond after⟩) := by
  rw [ask, nextPage_beyond]
  rfl

lemma ask_of_success (ht : isBlank tenant = false) (hafter : ∀ a ∈ after, a ≠ "") (size : Nat)
    (s : Store) :
    ask s none ⟨tenant, size, .beyond after⟩ =
      ([.list tenant (after.map PageToken.after) size],
        receive ⟨tenant, size, .beyond after⟩ (.ok (s.pageAfter tenant size after))) := by
  have hlist : s.list tenant (after.map PageToken.after) size =
      .ok (s.pageAfter tenant size after) := Store.list_eq_page ht hafter size s
  rw [ask, nextPage_beyond, ← hlist]
  rfl

lemma Stands.failed (h : Stands s tenant size (shown, p)) (e : StoreError) :
    p.ask s (some e) = ([], .ok none, p) ∨
      ∃ token, p.ask s (some e) = ([.list tenant token size], .error e, p) := by
  cases h with
  | finished => exact .inl rfl
  | beyond => exact .inr ⟨_, ask_of_failure s e tenant size _⟩

/-- A call that goes through gives records that come next, or there are none left. -/
lemma Stands.step (hs : s.Filed) (ht : isBlank tenant = false)
    (h : Stands s tenant size (shown, p)) :
    (∃ page, page ≠ [] ∧ (p.ask s none).2.1 = .ok (some page) ∧
        Stands s tenant size (shown ++ page, (p.ask s none).2.2)) ∨
      ((p.ask s none).2 = (.ok none, ⟨tenant, size, .finished⟩) ∧
        shown = s.recordsAfter tenant none) := by
  cases h with
  | finished => exact .inr ⟨rfl, rfl⟩
  | @beyond _ after hafter hshown =>
    rw [ask_of_success ht hafter]
    let page := s.pageAfter tenant size after
    rcases Store.pageOf_cases (effectivePageSize_pos size)
        (Store.recordsAfter_ascending hs tenant after) with
      ⟨hnext, hall⟩ | ⟨last, hlast, hnext, hle, hsplit⟩
    · have hadvanced : advance ⟨tenant, size, .beyond after⟩ page = ⟨tenant, size, .finished⟩ :=
        advance_of_none hnext
      have hwhole : s.recordsAfter tenant none = shown ++ page.records := hall.symm ▸ hshown
      cases hempty : page.records with
      | nil =>
        right
        rw [hempty, List.append_nil] at hwhole
        simp [receive, page, hempty, hadvanced, hwhole]
      | cons r rest =>
        left
        refine ⟨page.records, by simp [hempty], by simp [receive, page, hempty], ?_⟩
        change Stands s tenant size (_, advance ⟨tenant, size, .beyond after⟩ page)
        rw [← hwhole, hadvanced]
        exact .finished
    · have hadvanced : advance ⟨tenant, size, .beyond after⟩ page =
          ⟨tenant, size, .beyond (some last.name)⟩ := advance_of_some hnext
      have hsublist : page.records.Sublist (s.recordsAfter tenant after) := Store.pageOf_sublist _ _
      have hname : ∀ a ∈ some last.name, a ≠ "" := by
        rintro _ ⟨rfl⟩
        exact Store.name_ne_empty hs ((Store.mem_recordsAfter hs).mp (hsublist.subset hlast)).1
      have hwhole : s.recordsAfter tenant none =
          (shown ++ page.records) ++ s.recordsAfter tenant (some last.name) := by
        rw [List.append_assoc, ← Store.recordsAfter_eq_append hs hsublist hlast hle hsplit, hshown]
      have hne : page.records ≠ [] := List.ne_nil_of_mem hlast
      left
      refine ⟨page.records, hne, by simp [receive, page, hne], ?_⟩
      change Stands s tenant size (_, advance ⟨tenant, size, .beyond after⟩ page)
      rw [hadvanced]
      exact .beyond hname hwhole

lemma Stands.use (hs : s.Filed) (ht : isBlank tenant = false) {x : Progress}
    (h : Stands s tenant size x) (u : Use) : Stands s tenant size (x.use s u) := by
  obtain ⟨shown, p⟩ := x
  cases u with
  | restart => exact h.restart
  | next failure =>
    cases failure with
    | none =>
      rcases h.step hs ht with ⟨page, _, hstep, hstands⟩ | ⟨hend, hwhole⟩
      · simpa only [Progress.use, hstep, given] using hstands
      · simp only [Progress.use, hend, given, List.append_nil, hwhole]
        exact .finished
    | some e =>
      cases h with
      | finished => simpa only [Progress.use, ask_finished, given, List.append_nil] using .finished
      | beyond hafter hshown =>
        simpa only [Progress.use, ask_of_failure, given, List.append_nil] using
          .beyond hafter hshown

lemma Stands.uses (hs : s.Filed) (ht : isBlank tenant = false) {x : Progress}
    (h : Stands s tenant size x) (us : List Use) : Stands s tenant size (x.uses s us) := by
  induction us generalizing x with
  | nil => exact h
  | cons u rest ih => exact ih (h.use hs ht u)

/-- Once there is nothing more to give, nothing more is asked of the store. -/
lemma uses_finished (s : Store) (shown : List Record) (tenant : String) (size : Nat)
    (failures : List (Option StoreError)) :
    Progress.uses s (shown, ⟨tenant, size, .finished⟩) (failures.map .next) =
      (shown, ⟨tenant, size, .finished⟩) := by
  induction failures with
  | nil => rfl
  | cons failure rest ih =>
    have hstays : Progress.use s (shown, ⟨tenant, size, .finished⟩) (.next failure) =
        (shown, ⟨tenant, size, .finished⟩) := by
      simp only [Progress.use, ask_finished, given, List.append_nil]
    rw [List.map_cons, Progress.uses, List.foldl_cons, hstays]
    exact ih

lemma Stands.whole_of_none (hs : s.Filed) (ht : isBlank tenant = false)
    (h : Stands s tenant size (shown, p)) {failure : Option StoreError}
    (hnone : (p.ask s failure).2.1 = .ok none) :
    shown = s.recordsAfter tenant none ∧ (p.ask s failure).2.2 = ⟨tenant, size, .finished⟩ := by
  cases failure with
  | none =>
    rcases h.step hs ht with ⟨page, _, hstep, _⟩ | ⟨hend, hwhole⟩
    · rw [hstep] at hnone
      cases hnone
    · exact ⟨hwhole, congrArg Prod.snd hend⟩
  | some e =>
    cases h with
    | finished => exact ⟨rfl, rfl⟩
    | beyond hafter hshown =>
      rw [ask_of_failure] at hnone
      cases hnone

lemma Stands.resume {t : PageToken} (h : Stands s tenant size (shown, p)) (ht : p.token = some t) :
    (new tenant size).resume t = p ∧
      ∀ other, Stands s tenant other (shown, (new tenant other).resume t) := by
  cases h with
  | finished => cases ht
  | @beyond _ after hafter hshown =>
    cases after with
    | none => cases ht
    | some name =>
      obtain rfl := Option.some.inj ht
      exact ⟨rfl, fun _ => .beyond hafter hshown⟩

/-- Whatever is done with a pager and whichever of its calls fail, what it has given since its walk
began is the beginning of the tenant's listing. A call that fails leaves it as it is; one that goes
through gives more of the listing, or none if all has been given, and then it asks nothing more. Who
resumes from its token, with pages of any size, goes on just there. -/
theorem given_amid_failures (qs : List Request) (turns : List Turn) (tenant : String)
    (ht : isBlank tenant = false) (size : Nat) (us : List Use) :
    let s := ((Crowd.ofRequests .empty qs).run turns).shared.store
    ∃ listing : List Record,
      (∀ r, r ∈ listing ↔ s.get ⟨tenant, r.name⟩ = .ok r) ∧
      (∀ n r, s.get ⟨tenant, n⟩ = .ok r → r.key = ⟨tenant, n⟩) ∧
      (listing.Pairwise fun a b => Utf8.bytes a.name < Utf8.bytes b.name) ∧
      let x := Progress.uses s ([], new tenant size) us
      let p := x.2
      x.1 <+: listing ∧
      (∀ e, p.ask s (some e) = ([], .ok none, p) ∨
        ∃ token, p.ask s (some e) = ([.list tenant token size], .error e, p)) ∧
      ((∃ page, page ≠ [] ∧ (p.ask s none).2.1 = .ok (some page) ∧ x.1 ++ page <+: listing) ∨
        (p.ask s none).2.1 = .ok none) ∧
      (∀ failure, (p.ask s failure).2.1 = .ok none → x.1 = listing ∧
        ∀ (failures : List (Option StoreError)) (failure' : Option StoreError),
        let y := Progress.uses s (x.1, (p.ask s failure).2.2) (failures.map .next)
        y.1 = listing ∧ y.2.ask s failure' = ([], .ok none, y.2)) ∧
      ∀ t, p.token = some t → (new tenant size).resume t = p ∧ ∀ size' us',
        let y := Progress.uses s (x.1, (new tenant size').resume t) us'
        y.1 <+: listing ∧ ∀ failure, (y.2.ask s failure).2.1 = .ok none → y.1 = listing := by
  intro s
  have hs : s.Filed := ((Crowd.sound_ofRequests qs).run turns).filed
  refine ⟨s.recordsAfter tenant none, fun r => ?_, fun n r hr => ?_, ?_, ?_⟩
  · rw [Store.mem_recordsAfter hs]
    exact ⟨fun h => Store.get_of_record? hs h.1, fun h => ⟨Store.record?_of_get h, nofun⟩⟩
  · exact hs.own (Store.record?_of_get hr)
  · simpa only [Utf8.bytes_lt_iff] using Store.recordsAfter_ascending hs tenant none
  intro x p
  have hx : Stands s tenant size (x.1, p) := (stands_new s tenant size).uses hs ht us
  refine ⟨hx.isPrefix, hx.failed, ?_, fun failure hnone => ?_, fun t htoken => ?_⟩
  · rcases hx.step hs ht with ⟨page, hne, hstep, hstands⟩ | ⟨hend, _⟩
    · exact .inl ⟨page, hne, hstep, hstands.isPrefix⟩
    · exact .inr (congrArg Prod.fst hend)
  · obtain ⟨hwhole, hfinished⟩ := hx.whole_of_none hs ht hnone
    refine ⟨hwhole, fun failures failure' => ?_⟩
    rw [hfinished, uses_finished]
    exact ⟨hwhole, rfl⟩
  · obtain ⟨hsame, hresumed⟩ := hx.resume htoken
    refine ⟨hsame, fun size' us' => ?_⟩
    have hy := (hresumed size').uses hs ht us'
    exact ⟨hy.isPrefix, fun failure hnone => (hy.whole_of_none hs ht hnone).1⟩

/-- The first call fails, and later the last one; the walk is then taken on by another pager. -/
theorem given_amid_failures_acme :
    let qs : List Request := [.create (.new "acme" "dev-1"), .create (.new "acme" "dev-2"),
      .create (.new "acme" "dev-3")]
    let turns : List Turn := [0, 0, 1, 1, 2, 2].map fun i => (i, .epoch)
    let s := ((Crowd.ofRequests .empty qs).run turns).shared.store
    let busy := StoreError.invalidKey "busy"
    let us : List Use := [.next (some busy), .next none, .restart, .next none, .next (some busy)]
    let x := Progress.uses s ([], new "acme" 2) us
    isBlank "acme" = false ∧ x.1.map Record.name = ["dev-1", "dev-2"] ∧
      x.2.token = some (PageToken.after "dev-2") ∧
      ∃ listing : List Record, (∀ r, r ∈ listing ↔ s.get ⟨"acme", r.name⟩ = .ok r) ∧
        x.1 <+: listing ∧ ∀ size' us',
          let y := Progress.uses s (x.1, (new "acme" size').resume (PageToken.after "dev-2")) us'
          ∀ failure, (y.2.ask s failure).2.1 = .ok none → y.1 = listing := by
  intro qs turns s busy us x
  have htenant : isBlank "acme" = false := by decide
  have hnames : x.1.map Record.name = ["dev-1", "dev-2"] := by decide +kernel
  have htoken : x.2.token = some (PageToken.after "dev-2") := by decide +kernel
  obtain ⟨listing, hmem, _, _, hprefix, _, _, _, hresume⟩ :=
    given_amid_failures qs turns "acme" htenant 2 us
  exact ⟨htenant, hnames, htoken, listing, hmem, hprefix, fun size' us' =>
    ((hresume _ htoken).2 size' us').2⟩

end Pager

end DeviceFleet
