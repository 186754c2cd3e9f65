import DeviceFleet.Proofs.Fleet.Walk
import DeviceFleet.Proofs.Text.ByteOrder

/-! Listings of a store that nobody changes, each from the token of the page before it, with a page
size of its own. -/

namespace DeviceFleet

open Text

/-- Lists a tenant's pages, at first from some token and then from the one of each page before, for
as long as there is one and calls are left. -/
def Store.follow (tenant : String) (s : Store) :
    (calls : Nat) → (sizes : Nat → Nat) → Option PageToken → List (Except StoreError Page)
  | 0, _, _ => []
  | calls + 1, sizes, token =>
    match s.list tenant token (sizes 0) with
    | .error e => [.error e]
    | .ok page =>
      .ok page :: match page.next with
        | none => []
        | some t => s.follow tenant calls (fun i => sizes (i + 1)) (some t)

/-- The pages that some records make, when each page has its own size. -/
structure Paged (sizes : Nat → Nat) (records : List Record) (pages : List Page) : Prop where
  joined : pages.flatMap Page.records = records
  few : pages.length ≤ records.length + 1
  fits : ∀ i page, pages[i]? = some page → page.records.length ≤ effectivePageSize (sizes i)
  full : ∀ i page, pages[i]? = some page → i + 1 < pages.length →
    page.records.length = effectivePageSize (sizes i)
  onward : ∀ i page, pages[i]? = some page → (page.next.isSome ↔
    ∃ r ∈ records, ∀ shown ∈ (pages.take (i + 1)).flatMap Page.records, shown.name < r.name)
  parses : ∀ page ∈ pages, ∀ t ∈ page.next, PageToken.parse t.text = .ok t

namespace Paged

variable {sizes : Nat → Nat} {records : List Record} {page : Page} {pages : List Page}

lemma of_last (hfits : page.records.length ≤ effectivePageSize (sizes 0))
    (hnext : page.next = none) : Paged sizes page.records [page] where
  joined := List.append_nil _
  few := Nat.le_add_left _ _
  fits := by
    rintro (_ | i) p hp
    · obtain rfl := Option.some.inj hp
      exact hfits
    · simp at hp
  full := by
    intro i p _ hi
    simp at hi
  onward := by
    rintro (_ | i) p hp
    · obtain rfl := Option.some.inj hp
      refine iff_of_false (by simp [hnext]) ?_
      rintro ⟨r, hr, hbeyond⟩
      exact String.lt_irrefl _ (hbeyond r (by simpa using hr))
    · simp at hp
  parses := by
    intro p hp t ht
    obtain rfl := List.mem_singleton.mp hp
    simp [hnext] at ht

lemma of_more {t : PageToken} (hfull : page.records.length = effectivePageSize (sizes 0))
    (hnext : page.next = some t) (hparses : PageToken.parse t.text = .ok t)
    (hrecords : records ≠ [])
    (hascending : (page.records ++ records).Pairwise fun a b => a.name < b.name)
    (hrest : Paged (fun i => sizes (i + 1)) records pages) :
    Paged sizes (page.records ++ records) (page :: pages) := by
  constructor
  case joined => rw [List.flatMap_cons, hrest.joined]
  case few =>
    have hpos := effectivePageSize_pos (sizes 0)
    have hfew := hrest.few
    rw [List.length_cons, List.length_append]
    omega
  case fits =>
    rintro (_ | i) p hp
    · obtain rfl := Option.some.inj hp
      exact hfull.le
    · exact hrest.fits i p hp
  case full =>
    rintro (_ | i) p hp hi
    · obtain rfl := Option.some.inj hp
      exact hfull
    · exact hrest.full i p hp (Nat.lt_of_succ_lt_succ hi)
  case onward =>
    obtain ⟨_, _, hbeyond⟩ := List.pairwise_append.mp hascending
    rintro (_ | i) p hp
    · obtain rfl := Option.some.inj hp
      obtain ⟨r, hr⟩ := List.exists_mem_of_ne_nil _ hrecords
      refine iff_of_true (by simp [hnext]) ⟨r, List.mem_append_right _ hr, fun shown hshown => ?_⟩
      exact hbeyond shown (by simpa using hshown) r hr
    · rw [hrest.onward i p hp]
      simp only [List.take_succ_cons, List.flatMap_cons, List.forall_mem_append]
      constructor
      · rintro ⟨r, hr, hlater⟩
        exact ⟨r, List.mem_append_right _ hr, fun shown hshown => hbeyond shown hshown r hr, hlater⟩
      · rintro ⟨r, hr, hearlier, hlater⟩
        refine ⟨r, (List.mem_append.mp hr).resolve_left fun hr => ?_, hlater⟩
        exact String.lt_irrefl _ (hearlier r hr)
  case parses =>
    intro p hp u hu
    rcases List.mem_cons.mp hp with rfl | hp
    · obtain rfl := Option.some.inj (hnext.symm.trans hu)
      exact hparses
    · exact hrest.parses p hp u hu

end Paged

namespace Store

variable {s : Store} {tenant : String} {after : Option String}

lemma eq_of_ascending {earlier later : List Record}
    (he : earlier.Pairwise fun a b => a.name < b.name)
    (hl : later.Pairwise fun a b => a.name < b.name) (h : ∀ r, r ∈ earlier ↔ r ∈ later) :
    earlier = later := by
  have hnodup {records : List Record} (hr : records.Pairwise fun a b => a.name < b.name) :
      records.Nodup := (nodup_of_ascending (List.pairwise_map.mpr hr)).of_map
  have hperm := (List.perm_ext_iff_of_nodup (hnodup he) (hnodup hl)).mpr h
  refine List.Perm.eq_of_pairwise ?_ he hl hperm
  intro a b _ _ hab hba
  exact absurd hba (String.lt_asymm hab)

lemma recordsAfter_eq_append (h : s.Filed) {shown : List Record} {last : Record}
    (hshown : shown.Sublist (s.recordsAfter tenant after)) (hlast : last ∈ shown)
    (hle : ∀ r ∈ shown, r.name ≤ last.name)
    (hsplit : ∀ r ∈ s.recordsAfter tenant after, r ∈ shown ∨ last.name < r.name) :
    s.recordsAfter tenant after = shown ++ s.recordsAfter tenant (some last.name) := by
  apply eq_of_ascending (recordsAfter_ascending h tenant after)
  · refine List.pairwise_append.mpr ⟨(recordsAfter_ascending h tenant after).sublist hshown,
      recordsAfter_ascending h tenant _, fun a ha b hb => ?_⟩
    exact Std.lt_of_le_of_lt (hle a ha) (((mem_recordsAfter h).mp hb).2 _ rfl)
  · intro r
    rw [List.mem_append]
    constructor
    · intro hr
      refine (hsplit r hr).imp_right fun hbeyond => (mem_recordsAfter h).mpr ⟨?_, ?_⟩
      · exact ((mem_recordsAfter h).mp hr).1
      · rintro _ ⟨rfl⟩
        exact hbeyond
    · rintro (hr | hr)
      · exact hshown.subset hr
      · obtain ⟨hheld, hbeyond⟩ := (mem_recordsAfter h).mp hr
        have hafter := ((mem_recordsAfter h).mp (hshown.subset hlast)).2
        exact (mem_recordsAfter h).mpr
          ⟨hheld, fun a ha => String.lt_trans (hafter a ha) (hbeyond _ rfl)⟩

lemma list_of_token (ht : isBlank tenant = false) {token : Option PageToken}
    (hafter : token.map PageToken.lastName = after.map .ok) (size : Nat) :
    s.list tenant token size = .ok (s.pageAfter tenant size after) := by
  cases token with
  | none =>
    obtain rfl : after = none := by simpa using hafter.symm
    simp [list, checkTenant, ht, pageAfter]
  | some t =>
    obtain ⟨a, rfl, ha⟩ := Option.map_eq_some_iff.mp hafter.symm
    simp [list, checkTenant, ht, pageAfter, ← ha]

lemma length_pageOf_le (size : Nat) (records : List Record) :
    (pageOf size records).records.length ≤ size := List.length_take_le size records

lemma length_pageOf_of_next {size : Nat} {records : List Record} {t : PageToken}
    (h : (pageOf size records).next = some t) :
    (pageOf size records).records.length = size ∧ size < records.length := by
  have hmore : size < records.length := by
    by_contra hfew
    simp [pageOf, hfew] at h
  exact ⟨by simp [pageOf, hmore.le], hmore⟩

section Follow

variable {token : Option PageToken} {sizes : Nat → Nat} {page : Page}

lemma follow_of_last (hlist : s.list tenant token (sizes 0) = .ok page) (hnext : page.next = none)
    (calls : Nat) : s.follow tenant (calls + 1) sizes token = [.ok page] := by
  simp only [follow, hlist, hnext]

lemma follow_of_more {t : PageToken} (hlist : s.list tenant token (sizes 0) = .ok page)
    (hnext : page.next = some t) (calls : Nat) :
    s.follow tenant (calls + 1) sizes token =
      .ok page :: s.follow tenant calls (fun i => sizes (i + 1)) (some t) := by
  simp only [follow, hlist, hnext]

lemma exists_paged (h : s.Filed) (ht : isBlank tenant = false)
    (hafter : token.map PageToken.lastName = after.map .ok) (sizes : Nat → Nat) :
    ∃ pages, (∀ calls, pages.length ≤ calls → s.follow tenant calls sizes token = pages.map .ok) ∧
      Paged sizes (s.recordsAfter tenant after) pages := by
  -- Each page but the last shows some of the records that remain.
  induction hn : (s.recordsAfter tenant after).length using Nat.strong_induction_on
    generalizing token after sizes with
  | _ n ih =>
    let page := s.pageAfter tenant (sizes 0) after
    have hlist : s.list tenant token (sizes 0) = .ok page := list_of_token ht hafter (sizes 0)
    have hfits : page.records.length ≤ effectivePageSize (sizes 0) := length_pageOf_le _ _
    have hascending := recordsAfter_ascending h tenant after
    rcases pageOf_cases (effectivePageSize_pos (sizes 0)) hascending with
      ⟨hnext, hall⟩ | ⟨last, hlast, hnext, hle, hsplit⟩
    · refine ⟨[page], fun calls hcalls => ?_, hall ▸ Paged.of_last hfits hnext⟩
      obtain ⟨calls, rfl⟩ := Nat.exists_eq_add_of_le' hcalls
      exact follow_of_last hlist hnext calls
    · have hshown : page.records.Sublist (s.recordsAfter tenant after) := pageOf_sublist _ _
      have happend : s.recordsAfter tenant after =
          page.records ++ s.recordsAfter tenant (some last.name) :=
        recordsAfter_eq_append h hshown hlast hle hsplit
      obtain ⟨hfull, hmore⟩ := length_pageOf_of_next hnext
      have hname : last.name ≠ "" :=
        name_ne_empty h ((mem_recordsAfter h).mp (hshown.subset hlast)).1
      have hlength : (s.recordsAfter tenant after).length =
          page.records.length + (s.recordsAfter tenant (some last.name)).length := by
        rw [← List.length_append, ← happend]
      have hpos : 0 < page.records.length := List.length_pos_of_mem hlast
      have hremain : s.recordsAfter tenant (some last.name) ≠ [] := by
        apply List.length_pos_iff.mp
        change page.records.length = _ at hfull
        omega
      have hcontinues : (some (PageToken.after last.name)).map PageToken.lastName =
          (some last.name).map .ok := congrArg some (PageToken.lastName_after hname)
      obtain ⟨pages, hfollow, hpaged⟩ := ih _ (by omega) hcontinues (fun i => sizes (i + 1)) rfl
      rw [happend] at hascending
      refine ⟨page :: pages, fun calls hcalls => ?_, happend ▸ Paged.of_more hfull hnext
        (PageToken.parse_after hname) hremain hascending hpaged⟩
      obtain ⟨calls, rfl⟩ := Nat.exists_eq_add_of_le' (Nat.le_trans (Nat.le_add_left 1 _) hcalls)
      rw [follow_of_more hlist hnext, hfollow calls (by simpa using hcalls), List.map_cons]

end Follow

/-- Listings that follow each other from the beginning, or from any token that a name can be read
from, end and give the records beyond that name, each once and in the order of their bytes. -/
theorem follow_lists_rest (qs : List Request) (turns : List Turn) (tenant : String)
    (ht : isBlank tenant = false) (token : Option PageToken) (after : Option String)
    (hafter : token.map PageToken.lastName = after.map .ok) (sizes : Nat → Nat) :
    let s := ((Crowd.ofRequests .empty qs).run turns).shared.store
    ∃ pages : List Page,
      (∀ calls, pages.length ≤ calls → s.follow tenant calls sizes token = pages.map .ok) ∧
      (∀ r, r ∈ pages.flatMap Page.records ↔
        s.get ⟨tenant, r.name⟩ = .ok r ∧ ∀ a ∈ after, Utf8.bytes a < Utf8.bytes r.name) ∧
      (∀ n r, s.get ⟨tenant, n⟩ = .ok r → r.key = ⟨tenant, n⟩) ∧
      ((pages.flatMap Page.records).Pairwise fun a b => Utf8.bytes a.name < Utf8.bytes b.name) ∧
      pages.length ≤ (pages.flatMap Page.records).length + 1 ∧
      ∀ i page, pages[i]? = some page →
        page.records.length ≤ effectivePageSize (sizes i) ∧
        (i + 1 < pages.length → page.records.length = effectivePageSize (sizes i)) ∧
        (page.next.isSome ↔ ∃ r, s.get ⟨tenant, r.name⟩ = .ok r ∧
          (∀ a ∈ after, Utf8.bytes a < Utf8.bytes r.name) ∧
          ∀ shown ∈ (pages.take (i + 1)).flatMap Page.records,
            Utf8.bytes shown.name < Utf8.bytes r.name) ∧
        ∀ t ∈ page.next, PageToken.parse t.text = .ok t := by
  intro s
  have hfiled : s.Filed := ((Crowd.sound_ofRequests qs).run turns).filed
  obtain ⟨pages, hfollow, hpaged⟩ := exists_paged hfiled ht hafter sizes
  have hmem (r : Record) : r ∈ s.recordsAfter tenant after ↔
      s.get ⟨tenant, r.name⟩ = .ok r ∧ ∀ a ∈ after, a < r.name := by
    rw [mem_recordsAfter hfiled]
    exact and_congr_left fun _ => ⟨get_of_record? hfiled, record?_of_get⟩
  simp only [Utf8.bytes_lt_iff]
  refine ⟨pages, hfollow, ?_, ?_, ?_, ?_, fun i page hpage => ⟨hpaged.fits i page hpage,
    hpaged.full i page hpage, ?_, hpaged.parses page (List.mem_of_getElem? hpage)⟩⟩
  · rw [hpaged.joined]
    exact hmem
  · intro n r hr
    exact hfiled.own (record?_of_get hr)
  · rw [hpaged.joined]
    exact recordsAfter_ascending hfiled tenant after
  · rw [hpaged.joined]
    exact hpaged.few
  · rw [hpaged.onward i page hpage]
    simp only [hmem, and_assoc]

/-- Listings of one record, then two and so on, from a token with a name that is not there. -/
theorem follow_lists_rest_acme :
    let qs : List Request := [.create (.new "acme" "dev-1"), .create (.new "acme" "dev-3"),
      .create (.new "acme" "dev-4")]
    let turns : List Turn := [0, 0, 1, 1, 2, 2].map fun i => (i, .epoch)
    let s := ((Crowd.ofRequests .empty qs).run turns).shared.store
    let token := PageToken.after "dev-2"
    let sizes (i : Nat) := i + 1
    isBlank "acme" = false ∧ token.lastName = .ok "dev-2" ∧ s.record? ⟨"acme", "dev-2"⟩ = none ∧
      ∃ pages : List Page,
        (∀ calls, pages.length ≤ calls →
          s.follow "acme" calls sizes (some token) = pages.map .ok) ∧
        ∀ r, r ∈ pages.flatMap Page.records ↔ s.get ⟨"acme", r.name⟩ = .ok r ∧
          ∀ a ∈ some "dev-2", Utf8.bytes a < Utf8.bytes r.name := by
  intro qs turns s token sizes
  have htenant : isBlank "acme" = false := by decide
  have htoken : token.lastName = .ok "dev-2" := PageToken.lastName_after (by decide)
  have habsent : s.record? ⟨"acme", "dev-2"⟩ = none := by decide
  obtain ⟨pages, hfollow, hmem, _⟩ := follow_lists_rest qs turns "acme" htenant (some token)
    (some "dev-2") (congrArg some htoken) sizes
  exact ⟨htenant, htoken, habsent, pages, hfollow, hmem⟩

end Store

end DeviceFleet
