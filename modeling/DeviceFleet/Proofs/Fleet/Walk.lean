import DeviceFleet.Fleet.Pager
import DeviceFleet.Proofs.Fleet.Amid
import DeviceFleet.Proofs.Fleet.Listing

/-! A walk over a tenant's pages while others create, change and delete records between its calls. -/

namespace DeviceFleet

def Change.files (tenant : String) : Change → Bool
  | .filed k => k.tenant = tenant
  | .takenOut _ => false

/-- How many records of a tenant others filed before some visits and between them. -/
def Visit.filings (tenant : String) (visits : List Visit) : Nat :=
  (visits.flatMap Visit.meanwhile).countP (Change.files tenant)

lemma Visit.filings_cons (tenant : String) (v : Visit) (visits : List Visit) :
    filings tenant (v :: visits) =
      v.meanwhile.countP (Change.files tenant) + filings tenant visits := by
  rw [filings, List.flatMap_cons, List.countP_append, filings]

def Visit.listed (v : Visit) : List Record :=
  match v.reply with
  | ⟨.list .., .ok page⟩ => page.records
  | _ => []

namespace Store

variable {s t : Store} {now : Timestamp} {change : Option Change} {tenant : String}
  {after : Option String}

lemma mem_keys_rest {n : String} :
    n ∈ (s.rest tenant after).keys ↔ (∀ a ∈ after, a < n) ∧ (s.record? ⟨tenant, n⟩).isSome := by
  rw [Table.mem_keys_iff, get?_rest]
  split
  · next h => exact (and_iff_right h).symm
  · next h => exact iff_of_false Bool.false_ne_true fun hn => h hn.1

lemma Moves.size_rest_le (h : s.Moves now t change) (tenant : String) (after : Option String) :
    (t.rest tenant after).size ≤
      (s.rest tenant after).size + change.toList.countP (Change.files tenant) := by
  let fresh := (change.toList.filter (Change.files tenant)).map fun c => c.key.name
  have hsub : (t.rest tenant after).keys ⊆ (s.rest tenant after).keys ++ fresh := by
    intro n hn
    obtain ⟨hafter, hthere⟩ := mem_keys_rest.mp hn
    rcases h.mem_of_isSome hthere with hold | rfl
    · exact List.mem_append_left _ (mem_keys_rest.mpr ⟨hafter, hold⟩)
    · apply List.mem_append_right
      simp [fresh, Change.files, Change.key]
  have hlen := (List.subperm_of_subset (t.rest tenant after).nodup_keys hsub).length_le
  simpa [fresh, Table.length_keys, List.countP_eq_length_filter] using hlen

lemma length_recordsAfter (s : Store) (tenant : String) (after : Option String) :
    (s.recordsAfter tenant after).length = (s.rest tenant after).size := by
  rw [recordsAfter_eq_values, Table.values, List.length_map, Table.size]

lemma name_ne_empty (h : s.Filed) {k : Key} {r : Record} (hr : s.record? k = some r) :
    k.name ≠ "" := by
  intro hname
  have hcheck := h.valid hr
  have hblank : Text.isBlank k.name = true := hname ▸ rfl
  cases ht : Text.isBlank k.tenant <;>
    simp [Key.check, checkTenant, ht, hblank, bind, Except.bind] at hcheck

lemma size_rest_lt (h : s.Filed) {last : Record} (hlast : last ∈ s.recordsAfter tenant after) :
    (s.rest tenant (some last.name)).size < (s.rest tenant after).size := by
  obtain ⟨hheld, hafter⟩ := (mem_recordsAfter h).mp hlast
  have hnodup : (last.name :: (s.rest tenant (some last.name)).keys).Nodup := by
    refine List.nodup_cons.mpr ⟨fun hmem => ?_, Table.nodup_keys _⟩
    exact String.lt_irrefl _ ((mem_keys_rest.mp hmem).1 _ rfl)
  have hsub : last.name :: (s.rest tenant (some last.name)).keys ⊆ (s.rest tenant after).keys := by
    intro n hn
    rcases List.mem_cons.mp hn with rfl | hn
    · exact mem_keys_rest.mpr ⟨hafter, by simp [hheld]⟩
    · obtain ⟨hbeyond, hthere⟩ := mem_keys_rest.mp hn
      exact mem_keys_rest.mpr ⟨fun a ha => String.lt_trans (hafter a ha) (hbeyond _ rfl), hthere⟩
  have hlen := (List.subperm_of_subset hnodup hsub).length_le
  rwa [List.length_cons, Table.length_keys, Table.length_keys] at hlen

end Store

lemma Crowd.size_rest_run_le (c : Crowd) (turns : List Turn) (tenant : String)
    (after : Option String) :
    ((c.run turns).shared.store.rest tenant after).size ≤
      (c.shared.store.rest tenant after).size + (c.history turns).countP (Change.files tenant) := by
  induction turns generalizing c with
  | nil => exact Nat.le_add_right _ _
  | cons turn rest ih =>
    have hrest := ih (c.step turn.2 turn.1)
    have hstep := (c.step_moves turn.2 turn.1).size_rest_le tenant after
    rw [run_cons, history, List.countP_append]
    omega

/-- Where a walk is that has come to a name, or has not begun. -/
def Cursor.beyond : Option String → Cursor
  | none => .start
  | some name => .after (PageToken.after name)

def Store.pageAfter (tenant : String) (size : Nat) (after : Option String) (s : Store) : Page :=
  pageOf (effectivePageSize size) (s.recordsAfter tenant after)

def Visit.ofPage (tenant : String) (size : Nat) (after : Option String) (meanwhile : List Change)
    (s : Store) : Visit where
  meanwhile := meanwhile
  store := s
  reply := ⟨.list tenant (after.map PageToken.after) size, .ok (s.pageAfter tenant size after)⟩

/-- What the rest of a walk gives that has come to some place. -/
structure Walked (tenant : String) (size : Nat) (after : Option String) (visits : List Visit)
    (records : List Record) : Prop where
  answered : ∀ v ∈ visits, ∃ token page, v.reply = ⟨.list tenant token size, .ok page⟩
  listed : records = visits.flatMap Visit.listed
  genuine : ∀ v ∈ visits, ∀ r ∈ v.listed, v.store.get ⟨tenant, r.name⟩ = .ok r
  ascending : records.Pairwise fun a b => a.name < b.name
  beyond : ∀ r ∈ records, ∀ a ∈ after, a < r.name
  complete : ∀ name, (∀ a ∈ after, a < name) →
    (∀ v ∈ visits, (v.store.record? ⟨tenant, name⟩).isSome) → name ∈ records.map Record.name

namespace Walked

variable {tenant : String} {size : Nat} {after : Option String} {meanwhile : List Change} {s : Store}
  {visits : List Visit} {records : List Record}

lemma get_of_mem_page (h : s.Filed) {r : Record} (hr : r ∈ (s.pageAfter tenant size after).records) :
    s.get ⟨tenant, r.name⟩ = .ok r :=
  Store.get_of_record? h ((Store.mem_recordsAfter h).mp ((Store.pageOf_sublist _ _).subset hr)).1

lemma of_last (h : s.Filed)
    (hall : (s.pageAfter tenant size after).records = s.recordsAfter tenant after) :
    Walked tenant size after [.ofPage tenant size after meanwhile s]
      (s.pageAfter tenant size after).records where
  answered := by
    intro v hv
    obtain rfl := List.mem_singleton.mp hv
    exact ⟨_, _, rfl⟩
  listed := (List.append_nil _).symm
  genuine := by
    intro v hv r hr
    obtain rfl := List.mem_singleton.mp hv
    exact get_of_mem_page h hr
  ascending := hall ▸ Store.recordsAfter_ascending h tenant after
  beyond := fun r hr => ((Store.mem_recordsAfter h).mp (hall ▸ hr)).2
  complete := by
    intro name hbeyond hthere
    obtain ⟨r, hr⟩ := Option.isSome_iff_exists.mp (hthere _ List.mem_cons_self)
    obtain rfl : r.name = name := congrArg Key.name (h.own hr)
    rw [hall]
    exact List.mem_map_of_mem ((Store.mem_recordsAfter h).mpr ⟨hr, hbeyond⟩)

lemma of_more (h : s.Filed) {last : Record}
    (hlast : last ∈ (s.pageAfter tenant size after).records)
    (hle : ∀ r ∈ (s.pageAfter tenant size after).records, r.name ≤ last.name)
    (hsplit : ∀ r ∈ s.recordsAfter tenant after,
      r ∈ (s.pageAfter tenant size after).records ∨ last.name < r.name)
    (hrest : Walked tenant size (some last.name) visits records) :
    Walked tenant size after (.ofPage tenant size after meanwhile s :: visits)
      ((s.pageAfter tenant size after).records ++ records) := by
  have hpage : (s.pageAfter tenant size after).records.Sublist (s.recordsAfter tenant after) :=
    Store.pageOf_sublist _ _
  have hbeyond : ∀ r ∈ (s.pageAfter tenant size after).records, ∀ a ∈ after, a < r.name :=
    fun r hr => ((Store.mem_recordsAfter h).mp (hpage.subset hr)).2
  constructor
  case answered =>
    intro v hv
    rcases List.mem_cons.mp hv with rfl | hv
    · exact ⟨_, _, rfl⟩
    · exact hrest.answered v hv
  case listed =>
    rw [List.flatMap_cons, ← hrest.listed]
    rfl
  case genuine =>
    intro v hv r hr
    rcases List.mem_cons.mp hv with rfl | hv
    · exact get_of_mem_page h hr
    · exact hrest.genuine v hv r hr
  case ascending =>
    have hfirst := (Store.recordsAfter_ascending h tenant after).sublist hpage
    refine List.pairwise_append.mpr ⟨hfirst, hrest.ascending, fun a ha b hb => ?_⟩
    exact Std.lt_of_le_of_lt (hle a ha) (hrest.beyond b hb _ rfl)
  case beyond =>
    intro r hr a ha
    rcases List.mem_append.mp hr with hr | hr
    · exact hbeyond r hr a ha
    · exact String.lt_trans (hbeyond last hlast a ha) (hrest.beyond r hr _ rfl)
  case complete =>
    intro name hname hthere
    rw [List.map_append, List.mem_append]
    obtain ⟨r, hr⟩ := Option.isSome_iff_exists.mp (hthere _ List.mem_cons_self)
    obtain rfl : r.name = name := congrArg Key.name (h.own hr)
    rcases hsplit r ((Store.mem_recordsAfter h).mpr ⟨hr, hname⟩) with hshown | hlater
    · exact Or.inl (List.mem_map_of_mem hshown)
    · right
      apply hrest.complete r.name
      · rintro a ⟨rfl⟩
        exact hlater
      · exact fun v hv => hthere v (List.mem_cons_of_mem _ hv)

lemma names_ascending (h : Walked tenant size after visits records) :
    (records.map Record.name).Pairwise (· < ·) := List.pairwise_map.mpr h.ascending

lemma count_eq_one (h : Walked tenant size none visits records) {name : String}
    (hthere : ∀ v ∈ visits, (v.store.record? ⟨tenant, name⟩).isSome) :
    (records.map Record.name).count name = 1 := by
  have hname := h.complete name (fun _ ha => nomatch ha) hthere
  exact List.count_eq_one_of_mem (nodup_of_ascending h.names_ascending) hname

lemma not_mem_of_absent (h : Walked tenant size after visits records) {name : String}
    (habsent : ∀ v ∈ visits, v.store.record? ⟨tenant, name⟩ = none) :
    name ∉ records.map Record.name := by
  intro hname
  obtain ⟨r, hr, rfl⟩ := List.mem_map.mp hname
  rw [h.listed] at hr
  obtain ⟨v, hv, hr⟩ := List.mem_flatMap.mp hr
  have hget := Store.record?_of_get (h.genuine v hv r hr)
  exact Option.some_ne_none r (hget.symm.trans (habsent v hv))

end Walked

namespace Pager

variable {tenant : String} {size : Nat} {after : Option String}

lemma advance_of_none {p : Pager} {page : Page} (h : page.next = none) :
    p.advance page = { p with cursor := .finished } := by rw [advance, h]

lemma advance_of_some {p : Pager} {page : Page} {t : PageToken} (h : page.next = some t) :
    p.advance page = { p with cursor := .after t } := by rw [advance, h]

def proceed (got : List Record) (pages : Nat) : Step × Pager → Client (Collection × Pager)
  | (.error e, p) => .done (some (.error e), p)
  | (.ok none, p) => .done (some (.ok got), p)
  | (.ok (some records), p) => collectFrom (got ++ records) pages p

lemma collectFrom_succ (got : List Record) (pages : Nat) (p : Pager) :
    collectFrom got (pages + 1) p = p.nextPage.bind (proceed got pages) := rfl

lemma proceed_receive (got : List Record) (pages : Nat) (p : Pager) (page : Page) :
    proceed got pages (p.receive (.ok page)) =
      if page.records.isEmpty then .done (some (.ok got), p.advance page)
      else collectFrom (got ++ page.records) pages (p.advance page) := by
  simp only [receive]
  split <;> rfl

lemma nextPage_beyond (tenant : String) (size : Nat) (after : Option String) :
    nextPage ⟨tenant, size, .beyond after⟩ =
      .call (.list tenant (after.map PageToken.after) size) fun r =>
        .done (receive ⟨tenant, size, .beyond after⟩ r) := by
  cases after <;> rfl

/-- A walk makes one call for each page, and then has ended or goes on from the next place. -/
lemma runAmid_collectFrom (ht : Text.isBlank tenant = false) (hafter : ∀ a ∈ after, a ≠ "")
    (size : Nat) (clock : Nat → Timestamp) (n : Nat) (pauses : List (List Turn)) (c : Crowd)
    (got : List Record) (pages : Nat) :
    let met := c.run (pauses.headD [])
    let page := met.shared.store.pageAfter tenant size after
    let p : Pager := ⟨tenant, size, .beyond after⟩
    let onward := proceed got pages (p.receive (.ok page))
    let run := onward.runAmid clock (n + 1) pauses.tail met
    (collectFrom got (pages + 1) p).runAmid clock n pauses c =
      (.ofPage tenant size after (c.history (pauses.headD [])) met.shared.store :: run.1, run.2) := by
  intro met page p onward run
  have hlist : met.shared.store.list tenant (after.map PageToken.after) size = .ok page :=
    Store.list_eq_page ht hafter size met.shared.store
  rw [collectFrom_succ, nextPage_beyond, Client.bind, Client.runAmid_list]
  simp only [Client.bind]
  rw [hlist]
  rfl

lemma runAmid_of_last (ht : Text.isBlank tenant = false) (hafter : ∀ a ∈ after, a ≠ "")
    (clock : Nat → Timestamp) (n : Nat) (pauses : List (List Turn)) (c : Crowd) (got : List Record)
    (hnext : ((c.run (pauses.headD [])).shared.store.pageAfter tenant size after).next = none) :
    let met := c.run (pauses.headD [])
    let page := met.shared.store.pageAfter tenant size after
    ∃ pages,
      (collectFrom got pages ⟨tenant, size, .beyond after⟩).runAmid clock n pauses c =
        ([.ofPage tenant size after (c.history (pauses.headD [])) met.shared.store],
          (some (.ok (got ++ page.records)), ⟨tenant, size, .finished⟩), met) ∧
      1 ≤ pages ∧ pages ≤ page.records.length + 1 := by
  intro met page
  have hstep := runAmid_collectFrom ht hafter size clock n pauses c got
  have hfinished : advance ⟨tenant, size, .beyond after⟩ page = ⟨tenant, size, .finished⟩ :=
    advance_of_none hnext
  cases hempty : page.records.isEmpty with
  | true =>
    refine ⟨1, (hstep 0).trans ?_, le_refl _, Nat.le_add_left _ _⟩
    rw [proceed_receive, if_pos hempty, hfinished, List.isEmpty_iff.mp hempty, List.append_nil]
    rfl
  | false =>
    have hsome : 0 < page.records.length := by simpa [List.length_pos_iff] using hempty
    refine ⟨2, (hstep 1).trans ?_, Nat.le_succ 1, Nat.succ_le_succ hsome⟩
    rw [proceed_receive, if_neg (Bool.eq_false_iff.mp hempty), hfinished]
    rfl

/-- A walk ends: each page before the last brings it past a record that was beyond the place
reached, or that others have filed meanwhile. -/
lemma exists_walked (ht : Text.isBlank tenant = false) (clock : Nat → Timestamp) (n : Nat)
    (pauses : List (List Turn)) (got : List Record) {bound : Nat} {past : List Change} {c : Crowd}
    (hafter : ∀ a ∈ after, a ≠ "") (hc : Crowd.Sound past c)
    (hbound : (c.shared.store.rest tenant after).size +
      (c.history pauses.flatten).countP (Change.files tenant) < bound) :
    ∃ pages visits records last,
      (collectFrom got pages ⟨tenant, size, .beyond after⟩).runAmid clock n pauses c =
        (visits, (some (.ok (got ++ records)), ⟨tenant, size, .finished⟩), last) ∧
      Walked tenant size after visits records ∧ visits.length ≤ pages ∧
      pages ≤ (c.shared.store.rest tenant after).size + Visit.filings tenant visits + 1 := by
  -- What others will file in all pauses bounds the calls; what they file up to the last call is
  -- known only when the walk has ended.
  induction bound generalizing n pauses past c got after with
  | zero => exact absurd hbound (Nat.not_lt_zero _)
  | succ bound ih =>
    let met := c.run (pauses.headD [])
    let page := met.shared.store.pageAfter tenant size after
    let visit := Visit.ofPage tenant size after (c.history (pauses.headD [])) met.shared.store
    have hmet : Crowd.Sound _ met := hc.run (pauses.headD [])
    have hgrown : (met.shared.store.rest tenant after).size ≤ _ :=
      c.size_rest_run_le (pauses.headD []) tenant after
    have hpauses : c.history pauses.flatten =
        c.history (pauses.headD []) ++ met.history pauses.tail.flatten := by
      rw [← Crowd.history_append]
      cases pauses <;> rfl
    rw [hpauses, List.countP_append] at hbound
    rcases Store.pageOf_cases (effectivePageSize_pos size)
        (Store.recordsAfter_ascending hmet.filed tenant after) with
      ⟨hnext, hall⟩ | ⟨last, hlast, hnext, hle, hsplit⟩
    · obtain ⟨pages, hrun, hpos, hpages⟩ := runAmid_of_last ht hafter clock n pauses c got hnext
      refine ⟨pages, [visit], page.records, met, hrun, Walked.of_last hmet.filed hall, hpos, ?_⟩
      have hsize : page.records.length = (met.shared.store.rest tenant after).size :=
        (congrArg List.length hall).trans (Store.length_recordsAfter _ _ _)
      change pages ≤ page.records.length + 1 at hpages
      simp only [Visit.filings_cons, visit, Visit.ofPage]
      omega
    · have hmem := (Store.pageOf_sublist _ _).subset hlast
      have hheld := ((Store.mem_recordsAfter hmet.filed).mp hmem).1
      have hfewer := Store.size_rest_lt hmet.filed hmem
      have hname : ∀ a ∈ some last.name, a ≠ "" := by
        rintro a ⟨rfl⟩
        exact Store.name_ne_empty hmet.filed hheld
      have hadvanced : advance ⟨tenant, size, .beyond after⟩ page =
          ⟨tenant, size, .beyond (some last.name)⟩ := advance_of_some hnext
      have hempty : ¬ page.records.isEmpty = true := by
        rw [List.isEmpty_iff]
        exact List.ne_nil_of_mem hlast
      obtain ⟨pages, visits, records, final, hrun, hwalked, hlen, hpages⟩ :=
        ih (n + 1) pauses.tail (got ++ page.records) hname hmet (by omega)
      refine ⟨pages + 1, visit :: visits, page.records ++ records, final, ?_,
        Walked.of_more hmet.filed hlast hle hsplit hwalked, Nat.succ_le_succ hlen, ?_⟩
      · rw [runAmid_collectFrom ht hafter size, proceed_receive, if_neg hempty, hadvanced, hrun,
          List.append_assoc]
      · simp only [Visit.filings_cons, visit, Visit.ofPage]
        omega

/-- Other clients may take any steps of any calls before and between the calls of a walk: it does not
fail and comes to an end, what it returns ascends, each record as it is when its page is listed; and
it returns once what is there all the time, and nothing that never is. -/
theorem walk_amid_others (qs : List Request) (before : List Turn) (pauses : List (List Turn))
    (clock : Nat → Timestamp) (tenant : String) (ht : Text.isBlank tenant = false) (size : Nat) :
    let start := (Crowd.ofRequests .empty qs).run before
    ∃ pages visits records last,
      ((new tenant size).collectAll pages).runAmid clock 0 pauses start =
        (visits, (some (.ok records), ⟨tenant, size, .finished⟩), last) ∧
      visits.length ≤ pages ∧
      pages ≤ (start.shared.store.shard tenant).size + Visit.filings tenant visits + 1 ∧
      (records.map Record.name).Pairwise (· < ·) ∧
      records = visits.flatMap Visit.listed ∧
      (∀ v ∈ visits, (∃ token page, v.reply = ⟨.list tenant token size, .ok page⟩) ∧
        ∀ r ∈ v.listed, v.store.get ⟨tenant, r.name⟩ = .ok r) ∧
      ∀ name,
        ((∀ v ∈ visits, (v.store.record? ⟨tenant, name⟩).isSome) →
          (records.map Record.name).count name = 1) ∧
        ((∀ v ∈ visits, v.store.record? ⟨tenant, name⟩ = none) →
          name ∉ records.map Record.name) := by
  intro start
  have hstart : Crowd.Sound _ start := (Crowd.sound_ofRequests qs).run before
  have hbegun : ∀ a ∈ (none : Option String), a ≠ "" := fun _ ha => nomatch ha
  obtain ⟨pages, visits, records, last, hrun, hwalked, hlen, hpages⟩ :=
    exists_walked ht clock 0 pauses [] hbegun hstart (Nat.lt_succ_self _)
  exact ⟨pages, visits, records, last, hrun, hlen, hpages, hwalked.names_ascending, hwalked.listed,
    fun v hv => ⟨hwalked.answered v hv, hwalked.genuine v hv⟩,
    fun name => ⟨hwalked.count_eq_one, hwalked.not_mem_of_absent⟩⟩

/-- Between the first page and the second the device listed first is deleted and another one filed. -/
theorem walk_amid_others_acme :
    let qs : List Request := [.create (.new "acme" "dev-1"), .create (.new "acme" "dev-3"),
      .delete ⟨"acme", "dev-1"⟩, .create (.new "acme" "dev-2")]
    let turns (is : List Nat) : List Turn := is.map fun i => (i, .epoch)
    let start := (Crowd.ofRequests .empty qs).run (turns [0, 0, 1, 1])
    Text.isBlank "acme" = false ∧ (start.shared.store.shard "acme").size = 2 ∧
      ∃ pages visits records last,
        ((new "acme" 1).collectAll pages).runAmid (fun _ => .epoch) 0
          [[], turns [2, 2, 2, 2, 3, 3]] start =
          (visits, (some (.ok records), ⟨"acme", 1, .finished⟩), last) ∧
        ((∀ v ∈ visits, (v.store.record? ⟨"acme", "dev-3"⟩).isSome) →
          (records.map Record.name).count "dev-3" = 1) := by
  intro qs turns start
  have htenant : Text.isBlank "acme" = false := by decide
  have hsize : (start.shared.store.shard "acme").size = 2 := by decide
  obtain ⟨pages, visits, records, last, hrun, _, _, _, _, _, hnames⟩ :=
    walk_amid_others qs (turns [0, 0, 1, 1]) [[], turns [2, 2, 2, 2, 3, 3]] (fun _ => .epoch) "acme"
      htenant 1
  exact ⟨htenant, hsize, pages, visits, records, last, hrun, (hnames "dev-3").1⟩

end Pager

end DeviceFleet
