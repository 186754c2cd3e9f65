import DeviceFleet.Proofs.Text.Segments
import DeviceFleet.Proofs.Text.Trimming
import DeviceFleet.Settings.Tags
import DeviceFleet.Table.Lemmas

/-! A list of tags is read part by part. Of the parts that give one key a value the last counts, and
the parts that give none are rejected, in their order. -/

namespace DeviceFleet.Tags

open Text

variable {α : Type} {s part k v : String}

/-- What stands between the commas of a list, trimmed; a blank part does not count. -/
def parts (s : String) : List String :=
  ((s.toList.splitOn ',').map fun p => String.ofList (trimChars p)).filter (· ≠ "")

/-- The key stands before the first equals sign of a part, its value after it. -/
def Assigns (part k v : String) : Prop :=
  k ≠ "" ∧ ∃ before after, part.toList = before ++ '=' :: after ∧ '=' ∉ before ∧
    trimChars before = k.toList ∧ trimChars after = v.toList

def IsMalformed (part : String) : Prop :=
  '=' ∉ part.toList ∨ ∃ before after, part.toList = before ++ '=' :: after ∧ '=' ∉ before ∧
    ∀ c ∈ before, isWhite c

namespace Pair

def value? (k : String) : Pair → Option String
  | .tag key v => if key = k then some v else none
  | _ => none

def rejected? : Pair → Option String
  | .malformed part => some part
  | _ => none

end Pair

section Parts

lemma readPair_trimChars (p : List Char) : readPair (trimChars p) = readPair p := by
  simp only [readPair, trimChars_trimChars]

lemma readPair_eq_blank_iff {p : List Char} : readPair p = .blank ↔ trimChars p = [] := by
  rw [readPair]
  split
  · next h => simpa using h
  · next h =>
    refine iff_of_false ?_ (by simpa using h)
    split
    · split <;> exact nofun
    · exact nofun

lemma mem_parts_iff : part ∈ parts s ↔
    (∃ p ∈ segments ',' s.toList, String.ofList (trimChars p) = part) ∧ part ≠ "" := by
  rw [parts, ← segments_eq_splitOn, List.mem_filter, List.mem_map, decide_eq_true_eq]

lemma trimmed_of_mem_parts (h : part ∈ parts s) : trimChars part.toList = part.toList := by
  obtain ⟨⟨p, -, rfl⟩, -⟩ := mem_parts_iff.mp h
  rw [String.toList_ofList, trimChars_trimChars]

lemma ne_empty_of_mem_parts (h : part ∈ parts s) : part ≠ "" := (mem_parts_iff.mp h).2

/-- The pairs of a list are those of its parts; what asks nothing of a blank pair need not look at
the segments. -/
lemma filterMap_pairs (f : Pair → Option α) (hf : f .blank = none) (s : String) :
    (pairs s).filterMap f = (parts s).filterMap fun part => f (readPair part.toList) := by
  rw [pairs, parts, segments_eq_splitOn, List.filterMap_map, List.filterMap_filter,
    List.filterMap_map]
  apply List.filterMap_congr
  intro p _
  by_cases hp : trimChars p = []
  · simp [readPair_eq_blank_iff.mpr hp, hf, hp]
  · simp [hp, readPair_trimChars]

end Parts

section Cases

lemma isMalformed_iff :
    IsMalformed part ↔ ∀ p, cutFirst '=' part.toList = some p → trimChars p.1 = [] := by
  constructor
  · rintro (hnot | ⟨before, after, hpart, hnot, hwhite⟩) p hcut
    · rw [cutFirst_eq_none_iff.mpr hnot] at hcut
      exact absurd hcut nofun
    · rw [cutFirst_eq_some_iff.mpr ⟨hpart, hnot⟩] at hcut
      obtain rfl := Option.some.inj hcut
      exact trimChars_eq_nil_iff.mpr hwhite
  · intro h
    cases hcut : cutFirst '=' part.toList with
    | none => exact .inl (cutFirst_eq_none_iff.mp hcut)
    | some p =>
      obtain ⟨hpart, hnot⟩ := cutFirst_eq_some_iff.mp hcut
      exact .inr ⟨p.1, p.2, hpart, hnot, trimChars_eq_nil_iff.mp (h p hcut)⟩

instance (part : String) : Decidable (IsMalformed part) :=
  decidable_of_iff ((cutFirst '=' part.toList).all fun p => (trimChars p.1).isEmpty) <| by
    rw [isMalformed_iff]
    cases cutFirst '=' part.toList <;> simp

variable (htrim : trimChars part.toList = part.toList)

include htrim

lemma readPair_eq_tag_iff : readPair part.toList = .tag k v ↔ Assigns part k v := by
  rw [readPair, htrim]
  constructor
  · intro h
    split at h
    · exact absurd h nofun
    · split at h
      · next before after hcut =>
        obtain ⟨hpart, hnot⟩ := cutFirst_eq_some_iff.mp hcut
        split at h
        · exact absurd h nofun
        · next hkey =>
          obtain ⟨rfl, rfl⟩ := Pair.tag.inj h
          refine ⟨by simpa using hkey, before, after, hpart, hnot, ?_, ?_⟩
          · rw [String.toList_ofList]
          · rw [String.toList_ofList]
      · exact absurd h nofun
  · rintro ⟨hkey, before, after, hpart, hnot, hbefore, hafter⟩
    have hcut := cutFirst_eq_some_iff.mpr ⟨hpart, hnot⟩
    have hne : part.toList ≠ [] := by simp [hpart]
    simp [hcut, hne, hbefore, hafter, hkey]

lemma readPair_eq_malformed_iff (hne : part ≠ "") :
    readPair part.toList = .malformed v ↔ IsMalformed part ∧ part = v := by
  have hlist : part.toList ≠ [] := by simpa using hne
  rw [readPair, htrim, isMalformed_iff]
  cases hcut : cutFirst '=' part.toList with
  | none => simp [hne]
  | some p =>
    by_cases hblank : trimChars p.1 = []
    · simp [hne, hblank]
    · simp [hne, hblank]

end Cases

section Reading

variable {β : Type}

lemma getLast?_filterMap_eq_some_iff {f : α → Option β} {l : List α} {b : β} :
    (l.filterMap f).getLast? = some b ↔
      ∃ before a after, l = before ++ a :: after ∧ f a = some b ∧ ∀ x ∈ after, f x = none := by
  rw [List.getLast?_filterMap, List.findSome?_eq_some_iff]
  constructor
  · rintro ⟨after, a, before, hl, ha, hafter⟩
    refine ⟨before.reverse, a, after.reverse, ?_, ha, by simpa using hafter⟩
    rw [← List.reverse_reverse l, hl]
    simp
  · rintro ⟨before, a, after, rfl, ha, hafter⟩
    exact ⟨after.reverse, a, before.reverse, by simp, ha, by simpa using hafter⟩

lemma value?_eq_some_iff {p : Pair} : p.value? k = some v ↔ p = .tag k v := by
  cases p with
  | tag key value => simp [Pair.value?]
  | blank | malformed text => simp [Pair.value?]

lemma rejected?_eq_some_iff {p : Pair} : p.rejected? = some v ↔ p = .malformed v := by
  cases p with
  | malformed text => simp [Pair.rejected?]
  | blank | tag key value => simp [Pair.rejected?]

lemma get?_foldl (k : String) (ps : List Pair) (r : Reading) :
    (ps.foldl Reading.add r).tags.get? k =
      (ps.filterMap (Pair.value? k)).getLast?.or (r.tags.get? k) := by
  induction ps generalizing r with
  | nil => rfl
  | cons p rest ih =>
    rw [List.foldl_cons, ih]
    cases p with
    | blank | malformed text => rfl
    | tag key value =>
      by_cases hk : key = k
      · subst hk
        cases hlast : (rest.filterMap (Pair.value? key)).getLast? <;>
          simp [Reading.add, Pair.value?, List.getLast?_cons, hlast]
      · simp [Reading.add, Pair.value?, hk, Ne.symm hk]

lemma rejected_foldl (ps : List Pair) (r : Reading) :
    (ps.foldl Reading.add r).rejected = r.rejected ++ ps.filterMap Pair.rejected? := by
  induction ps generalizing r with
  | nil => simp
  | cons p rest ih =>
    rw [List.foldl_cons, ih]
    cases p with
    | blank | tag key value => rfl
    | malformed text => simp [Reading.add, Pair.rejected?]

lemma get?_read (k s : String) :
    (read s).tags.get? k = ((pairs s).filterMap (Pair.value? k)).getLast? := by
  simp [read, get?_foldl]

lemma rejected_read (s : String) : (read s).rejected = (pairs s).filterMap Pair.rejected? := by
  simp [read, rejected_foldl]

lemma pairs_append (a b : String) : pairs (a ++ "," ++ b) = pairs a ++ pairs b := by
  have htext : (a ++ "," ++ b).toList = a.toList ++ ',' :: b.toList := by simp
  rw [pairs, htext, segments_append_cons, List.map_append, pairs, pairs]

lemma get?_read_append (a b k : String) : (read (a ++ "," ++ b)).tags.get? k =
    ((read b).tags.get? k).or ((read a).tags.get? k) := by
  rw [get?_read, get?_read, get?_read, pairs_append, List.filterMap_append, List.getLast?_append]

lemma rejected_read_append (a b : String) :
    (read (a ++ "," ++ b)).rejected = (read a).rejected ++ (read b).rejected := by
  rw [rejected_read, rejected_read, rejected_read, pairs_append, List.filterMap_append]

lemma get?_read_eq_some_iff : (read s).tags.get? k = some v ↔
    ∃ before part after, parts s = before ++ part :: after ∧ Assigns part k v ∧
      ∀ later ∈ after, ∀ w, ¬ Assigns later k w := by
  have hvalue {part : String} (h : part ∈ parts s) (w : String) :
      (readPair part.toList).value? k = some w ↔ Assigns part k w := by
    rw [value?_eq_some_iff, readPair_eq_tag_iff (trimmed_of_mem_parts h)]
  rw [get?_read, filterMap_pairs _ rfl, getLast?_filterMap_eq_some_iff]
  constructor
  · rintro ⟨before, part, after, hparts, hpart, hafter⟩
    refine ⟨before, part, after, hparts, (hvalue (by simp [hparts]) v).mp hpart, ?_⟩
    intro later hlater w hassigns
    rw [← hvalue (by simp [hparts, hlater]), hafter later hlater] at hassigns
    exact absurd hassigns nofun
  · rintro ⟨before, part, after, hparts, hpart, hafter⟩
    refine ⟨before, part, after, hparts, (hvalue (by simp [hparts]) v).mpr hpart, ?_⟩
    intro later hlater
    rw [Option.eq_none_iff_forall_ne_some]
    intro w hw
    exact hafter later hlater w ((hvalue (by simp [hparts, hlater]) w).mp hw)

lemma rejected_read_eq_filter (s : String) :
    (read s).rejected = (parts s).filter (IsMalformed ·) := by
  rw [rejected_read, filterMap_pairs _ rfl, ← List.filterMap_eq_filter]
  apply List.filterMap_congr
  intro part hpart
  have hiff (v : String) : (readPair part.toList).rejected? = some v ↔ IsMalformed part ∧ part = v := by
    rw [rejected?_eq_some_iff, readPair_eq_malformed_iff (trimmed_of_mem_parts hpart)
      (ne_empty_of_mem_parts hpart)]
  apply Option.ext
  intro v
  rw [hiff]
  simp [Option.guard]

lemma not_isMalformed_iff (h : part ∈ parts s) : ¬ IsMalformed part ↔ ∃ k v, Assigns part k v := by
  have htrim := trimmed_of_mem_parts h
  have hne := ne_empty_of_mem_parts h
  cases hpair : readPair part.toList with
  | blank =>
    rw [readPair_eq_blank_iff, htrim] at hpair
    exact absurd (by simpa using hpair) hne
  | tag k v =>
    refine iff_of_true (fun hbad => ?_) ⟨k, v, (readPair_eq_tag_iff htrim).mp hpair⟩
    rw [(readPair_eq_malformed_iff htrim hne).mpr ⟨hbad, rfl⟩] at hpair
    exact absurd hpair nofun
  | malformed v =>
    refine iff_of_false (not_not_intro ((readPair_eq_malformed_iff htrim hne).mp hpair).1) ?_
    rintro ⟨k, w, hassigns⟩
    rw [(readPair_eq_tag_iff htrim).mpr hassigns] at hpair
    exact absurd hpair nofun

end Reading

/-- Two lists with a comma between them: the tags of the second override those of the first, and all
rejected parts stay. In any list a key has the value that the last part for it assigns, and the
malformed parts are rejected; no part is both, or counts for nothing unless a later part has its
key. -/
theorem last_part_of_key_counts :
    (∀ a b, (∀ k, (read (a ++ "," ++ b)).tags.get? k =
        ((read b).tags.get? k).or ((read a).tags.get? k)) ∧
      (read (a ++ "," ++ b)).rejected = (read a).rejected ++ (read b).rejected) ∧
    ∀ s,
      (∀ k v, (read s).tags.get? k = some v ↔ ∃ before part after,
        parts s = before ++ part :: after ∧ Assigns part k v ∧
          ∀ later ∈ after, ∀ w, ¬ Assigns later k w) ∧
      (read s).rejected = (parts s).filter (IsMalformed ·) ∧
      ∀ before part after, parts s = before ++ part :: after →
        (part ∈ (read s).rejected ∧ ∀ k v, ¬ Assigns part k v) ∨
        part ∉ (read s).rejected ∧ ∃ k v, Assigns part k v ∧
          ((read s).tags.get? k = some v ∨ ∃ later ∈ after, ∃ w, Assigns later k w) := by
  refine ⟨fun a b => ⟨get?_read_append a b, rejected_read_append a b⟩, fun s =>
    ⟨fun k v => get?_read_eq_some_iff, rejected_read_eq_filter s, ?_⟩⟩
  intro before part after hparts
  have hpart : part ∈ parts s := by simp [hparts]
  have hmem : part ∈ (read s).rejected ↔ IsMalformed part := by
    simp [rejected_read_eq_filter, hpart]
  rw [hmem]
  by_cases hbad : IsMalformed part
  · refine .inl ⟨hbad, fun k v hassigns => ?_⟩
    exact (not_isMalformed_iff hpart).mpr ⟨k, v, hassigns⟩ hbad
  · obtain ⟨k, v, hassigns⟩ := (not_isMalformed_iff hpart).mp hbad
    refine .inr ⟨hbad, k, v, hassigns, ?_⟩
    by_cases hlater : ∃ later ∈ after, ∃ w, Assigns later k w
    · exact .inr hlater
    · refine .inl (get?_read_eq_some_iff.mpr ⟨before, part, after, hparts, hassigns, ?_⟩)
      intro later hmem w hw
      exact hlater ⟨later, hmem, w, hw⟩

end DeviceFleet.Tags
