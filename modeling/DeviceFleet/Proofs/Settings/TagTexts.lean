import DeviceFleet.Proofs.Settings.TagLists

/-! The texts in which tags are written. Between commas a key and its value may stand in any white
space, and whatever is blank there means nothing; all that a list can say is written again. -/

namespace DeviceFleet.Tags

open Text

variable {α : Type} {s k v : String} {tags : Tags} {ps : List String} {es : List (String × String)}

/-- A key and a value that a list can give. -/
structure IsPlain (k v : String) : Prop where
  key_ne : k ≠ ""
  key_trimmed : trimChars k.toList = k.toList
  comma_key : ',' ∉ k.toList
  equals_key : '=' ∉ k.toList
  value_trimmed : trimChars v.toList = v.toList
  comma_value : ',' ∉ v.toList

def Writable (tags : Tags) : Prop := ∀ k v, tags.get? k = some v → IsPlain k v

/-- A key, an equals sign and a value, with white space around each of them. -/
def Writes (segment k v : String) : Prop :=
  ∃ key value, Framed k.toList key ∧ Framed v.toList value ∧ segment.toList = key ++ '=' :: value

/-- Segments that write some entries, one after another, with blank segments among them. -/
inductive Listing : List String → List (String × String) → Prop
  | nil : Listing [] []
  | blank {p : String} {ps : List String} {es : List (String × String)}
      (hp : ∀ c ∈ p.toList, isWhite c) (rest : Listing ps es) : Listing (p :: ps) es
  | entry {p k v : String} {ps : List String} {es : List (String × String)}
      (hp : Writes p k v) (rest : Listing ps es) : Listing (p :: ps) ((k, v) :: es)

def render (tags : Tags) : String := ",".intercalate (tags.entries.map fun e => e.1 ++ "=" ++ e.2)

section Segments

lemma pairs_intercalate (h : ∀ p ∈ ps, ',' ∉ p.toList) (hne : ps ≠ []) :
    pairs (",".intercalate ps) = ps.map fun p => readPair p.toList := by
  have hcommas : ∀ p ∈ ps.map String.toList, ',' ∉ p := by simpa using h
  rw [pairs, String.toList_intercalate, show ",".toList = [','] from rfl,
    segments_join hcommas (by simpa using hne), List.map_map]
  rfl

/-- No segment at all reads as one blank segment does. -/
lemma filterMap_intercalate {f : Pair → Option α} (hf : f .blank = none)
    (h : ∀ p ∈ ps, ',' ∉ p.toList) :
    (pairs (",".intercalate ps)).filterMap f = ps.filterMap fun p => f (readPair p.toList) := by
  by_cases hps : ps = []
  · subst hps
    have hblank : pairs (",".intercalate []) = [.blank] := by decide
    rw [hblank]
    simp [hf]
  · rw [pairs_intercalate h hps, List.filterMap_map]
    rfl

lemma ext_reading {r r' : Reading} (htags : ∀ k, r.tags.get? k = r'.tags.get? k)
    (hrejected : r.rejected = r'.rejected) : r = r' := by
  obtain ⟨tags, rejected⟩ := r
  obtain ⟨tags', rejected'⟩ := r'
  obtain rfl : tags = tags' := Table.ext_get? htags
  obtain rfl : rejected = rejected' := hrejected
  rfl

end Segments

section Writing

variable (hplain : IsPlain k v)

include hplain

lemma IsPlain.dark : ∃ c ∈ k.toList, isWhite c = false := by
  by_contra hwhite
  have hall : ∀ c ∈ k.toList, isWhite c := by simpa using hwhite
  have hnil := trimChars_eq_nil_iff.mpr hall
  rw [hplain.key_trimmed] at hnil
  exact hplain.key_ne (by simpa using hnil)

lemma Writes.comma_not_mem {p : String} (h : Writes p k v) : ',' ∉ p.toList := by
  obtain ⟨key, value, hkey, hvalue, hp⟩ := h
  have hcomma : isWhite ',' = false := by decide
  rw [hp, List.mem_append, List.mem_cons]
  rintro (hmem | hmem | hmem)
  · rcases hkey.mem_or_isWhite hmem with hmem | hwhite
    · exact hplain.comma_key hmem
    · simp [hcomma] at hwhite
  · exact absurd hmem (by decide)
  · rcases hvalue.mem_or_isWhite hmem with hmem | hwhite
    · exact hplain.comma_value hmem
    · simp [hcomma] at hwhite

lemma Writes.readPair_eq {p : String} (h : Writes p k v) : readPair p.toList = .tag k v := by
  obtain ⟨key, value, hkey, hvalue, hp⟩ := h
  have hequals : isWhite '=' = false := by decide
  have hdark : ∃ c ∈ key, isWhite c = false := by
    obtain ⟨c, hc, hdark⟩ := hplain.dark
    exact ⟨c, hkey.mem hc, hdark⟩
  have htrim : trimChars p.toList = trimStart key ++ '=' :: trimEnd value := by
    rw [hp, trimChars_append_of_dark hdark ⟨'=', by simp, hequals⟩, trimEnd_cons_of_dark hequals]
  have hassigns : Assigns (String.ofList (trimChars p.toList)) k v := by
    refine ⟨hplain.key_ne, trimStart key, trimEnd value, ?_, ?_, ?_, ?_⟩
    · rw [String.toList_ofList, htrim]
    · intro hmem
      rcases hkey.mem_or_isWhite ((framed_trimStart key).mem hmem) with hmem | hwhite
      · exact hplain.equals_key hmem
      · simp [hequals] at hwhite
    · rw [← (framed_trimStart key).trimChars, hkey.trimChars, hplain.key_trimmed]
    · rw [← (framed_trimEnd value).trimChars, hvalue.trimChars, hplain.value_trimmed]
  rw [← readPair_trimChars, ← String.toList_ofList (l := trimChars p.toList),
    readPair_eq_tag_iff (by simp)]
  exact hassigns

end Writing

section Listings

lemma Listing.comma_not_mem (h : Listing ps es) (hplain : ∀ e ∈ es, IsPlain e.1 e.2) :
    ∀ p ∈ ps, ',' ∉ p.toList := by
  induction h with
  | nil => exact nofun
  | blank hp rest ih =>
    refine List.forall_mem_cons.mpr ⟨fun hmem => ?_, ih hplain⟩
    exact absurd (hp ',' hmem) (by decide)
  | entry hp rest ih =>
    obtain ⟨hfirst, hrest⟩ := List.forall_mem_cons.mp hplain
    exact List.forall_mem_cons.mpr ⟨hp.comma_not_mem hfirst, ih hrest⟩

lemma Listing.filterMap_eq {f : Pair → Option α} (hf : f .blank = none) (h : Listing ps es)
    (hplain : ∀ e ∈ es, IsPlain e.1 e.2) :
    (ps.filterMap fun p => f (readPair p.toList)) = es.filterMap fun e => f (.tag e.1 e.2) := by
  induction h with
  | nil => rfl
  | blank hp rest ih =>
    have hblank := readPair_eq_blank_iff.mpr (trimChars_eq_nil_iff.mpr hp)
    rw [List.filterMap_cons, hblank, hf, ih hplain]
  | entry hp rest ih =>
    obtain ⟨hfirst, hrest⟩ := List.forall_mem_cons.mp hplain
    rw [List.filterMap_cons, hp.readPair_eq hfirst, List.filterMap_cons, ih hrest]

lemma read_of_listing (h : Listing ps es) (hmem : ∀ k v, (k, v) ∈ es ↔ tags.get? k = some v)
    (hw : tags.Writable) : read (",".intercalate ps) = ⟨tags, []⟩ := by
  have hplain : ∀ e ∈ es, IsPlain e.1 e.2 := fun e he => hw e.1 e.2 ((hmem e.1 e.2).mp he)
  have hcommas := h.comma_not_mem hplain
  apply ext_reading
  · intro k
    rw [get?_read, filterMap_intercalate rfl hcommas, h.filterMap_eq rfl hplain]
    have hvalues (v : String) :
        v ∈ (es.filterMap fun e => (Pair.tag e.1 e.2).value? k) ↔ tags.get? k = some v := by
      rw [← hmem, List.mem_filterMap]
      simp [value?_eq_some_iff]
    generalize (es.filterMap fun e => (Pair.tag e.1 e.2).value? k) = values at hvalues
    cases hlast : values.getLast? with
    | none =>
      obtain rfl := List.getLast?_eq_none_iff.mp hlast
      symm
      rw [Option.eq_none_iff_forall_ne_some]
      intro v hv
      exact List.not_mem_nil ((hvalues v).mpr hv)
    | some v => exact ((hvalues v).mp (List.mem_of_getLast? hlast)).symm
  · rw [rejected_read, filterMap_intercalate rfl hcommas, h.filterMap_eq rfl hplain]
    exact List.filterMap_eq_nil_iff.mpr fun _ _ => rfl

lemma listing_entries (es : List (String × String)) :
    Listing (es.map fun e => e.1 ++ "=" ++ e.2) es := by
  induction es with
  | nil => exact .nil
  | cons e rest ih => exact .entry ⟨_, _, .refl _, .refl _, by simp⟩ ih

end Listings

section Read

lemma comma_not_mem_of_mem_parts {part : String} (h : part ∈ parts s) : ',' ∉ part.toList := by
  obtain ⟨⟨p, hp, rfl⟩, -⟩ := mem_parts_iff.mp h
  rw [String.toList_ofList]
  exact fun hmem => not_mem_of_mem_segments hp ((framed_trimChars p).mem hmem)

lemma Assigns.isPlain {part : String} (h : Assigns part k v) (hpart : ',' ∉ part.toList) :
    IsPlain k v := by
  obtain ⟨hkey, before, after, hsplit, hequals, hbefore, hafter⟩ := h
  have hcommas : ',' ∉ before ∧ ',' ∉ after := by
    rw [hsplit, List.mem_append, List.mem_cons, not_or, not_or] at hpart
    exact ⟨hpart.1, hpart.2.2⟩
  have hmem_key {c : Char} (hc : c ∈ k.toList) : c ∈ before :=
    (framed_trimChars before).mem (hbefore ▸ hc)
  exact {
    key_ne := hkey
    key_trimmed := by rw [← hbefore, trimChars_trimChars]
    comma_key := fun hc => hcommas.1 (hmem_key hc)
    equals_key := fun hc => hequals (hmem_key hc)
    value_trimmed := by rw [← hafter, trimChars_trimChars]
    comma_value := fun hc => hcommas.2 ((framed_trimChars after).mem (hafter ▸ hc)) }

lemma writable_read (s : String) : (read s).tags.Writable := by
  intro k v h
  obtain ⟨before, part, after, hparts, hassigns, -⟩ := get?_read_eq_some_iff.mp h
  exact hassigns.isPlain (comma_not_mem_of_mem_parts (s := s) (by simp [hparts]))

lemma read_rejected (s : String) :
    read (",".intercalate (read s).rejected) = ⟨∅, (read s).rejected⟩ := by
  have hpart {p : String} (hp : p ∈ (read s).rejected) :
      ',' ∉ p.toList ∧ readPair p.toList = .malformed p := by
    rw [rejected_read_eq_filter, List.mem_filter, decide_eq_true_eq] at hp
    refine ⟨comma_not_mem_of_mem_parts hp.1, ?_⟩
    rw [readPair_eq_malformed_iff (trimmed_of_mem_parts hp.1) (ne_empty_of_mem_parts hp.1)]
    exact ⟨hp.2, rfl⟩
  have hcommas : ∀ p ∈ (read s).rejected, ',' ∉ p.toList := fun p hp => (hpart hp).1
  apply ext_reading
  · intro k
    rw [get?_read, filterMap_intercalate rfl hcommas, List.filterMap_eq_nil_iff.mpr]
    · rfl
    · intro p hp
      rw [(hpart hp).2]
      rfl
  · rw [rejected_read, filterMap_intercalate rfl hcommas]
    calc (read s).rejected.filterMap (fun p => (readPair p.toList).rejected?)
        = (read s).rejected.filterMap some :=
          List.filterMap_congr fun p hp => by rw [(hpart hp).2]; rfl
      _ = (read s).rejected := List.filterMap_some

end Read

/-- Any text that lists the entries of a writable table is read as this table, with nothing rejected.
What a text is read as can always be written: its tags are found again when they are rendered, and
what it rejects is rejected again, without any tags. -/
theorem tags_read_as_written :
    (∀ (tags : Tags) (es : List (String × String)) (ps : List String),
      tags.Writable → es.Perm tags.entries → Listing ps es →
        read (",".intercalate ps) = ⟨tags, []⟩) ∧
    ∀ s, (read s).tags.Writable ∧
      read (render (read s).tags) = ⟨(read s).tags, []⟩ ∧
      read (",".intercalate (read s).rejected) = ⟨∅, (read s).rejected⟩ := by
  constructor
  · intro tags es ps hw hperm h
    refine read_of_listing h (fun k v => ?_) hw
    rw [hperm.mem_iff, Table.mem_entries_iff]
  · intro s
    refine ⟨writable_read s, ?_, read_rejected s⟩
    exact read_of_listing (listing_entries _) (fun k v => Table.mem_entries_iff) (writable_read s)

theorem tags_read_as_written_rack :
    let tags : Tags := ⟨[("rack", "4"), ("site", "a=b")], by decide⟩
    let ps := [" site = a=b\t", "\u2003", "rack=4", ""]
    tags.Writable ∧ Listing ps [("site", "a=b"), ("rack", "4")] ∧
      read " site = a=b\t,\u2003,rack=4," = ⟨tags, []⟩ := by
  intro tags ps
  have hw : tags.Writable := by
    intro k v h
    rw [← Table.mem_entries_iff] at h
    obtain ⟨rfl, rfl⟩ | ⟨rfl, rfl⟩ : k = "rack" ∧ v = "4" ∨ k = "site" ∧ v = "a=b" := by
      simpa [tags] using h
    all_goals exact ⟨by decide, by decide, by decide, by decide, by decide, by decide⟩
  have hspace : ∀ c ∈ [' '], isWhite c := List.forall_mem_singleton.mpr rfl
  have htab : ∀ c ∈ ['\t'], isWhite c := List.forall_mem_singleton.mpr rfl
  have hsite : Writes " site = a=b\t" "site" "a=b" :=
    ⟨" site ".toList, " a=b\t".toList, ⟨[' '], [' '], hspace, hspace, rfl⟩,
      ⟨[' '], ['\t'], hspace, htab, rfl⟩, rfl⟩
  have hlisting : Listing ps [("site", "a=b"), ("rack", "4")] :=
    .entry hsite (.blank (List.forall_mem_singleton.mpr rfl)
      (.entry ⟨_, _, .refl _, .refl _, rfl⟩ (.blank nofun .nil)))
  exact ⟨hw, hlisting, tags_read_as_written.1 tags _ ps hw (by decide) hlisting⟩

end DeviceFleet.Tags
