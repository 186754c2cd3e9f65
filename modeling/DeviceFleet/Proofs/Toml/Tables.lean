import DeviceFleet.Toml.Number
import DeviceFleet.Toml.Tree
import Mathlib.Data.List.Nodup
import Mathlib.Tactic.Lemma

/-! No table of a document has the same name twice. A tree keeps to this while it is built: names
are added where they are free, and that of a table with a header stays free until the table is
closed. -/

namespace DeviceFleet.Toml

/-- A value as a text gives it: integers have 64 bits with sign, tables no name twice. -/
inductive Value.Sound : Value → Prop
  | text (s : String) : Sound (.text s)
  | integer {n : Int} (h : withinLong n) : Sound (.integer n)
  | number (x : Binary64) : Sound (.number x)
  | boolean (b : Bool) : Sound (.boolean b)
  | moment (written : String) : Sound (.moment written)
  | array {items : List Value} (h : ∀ v ∈ items, Sound v) : Sound (.array items)
  | table {entries : List Entry} (once : (entries.map (·.1.name)).Nodup)
      (h : ∀ e ∈ entries, Sound e.2) : Sound (.table entries)

def WellFormed (d : Document) : Prop := (Value.table d).Sound

lemma wellFormed_iff {d : Document} :
    WellFormed d ↔ (d.map (·.1.name)).Nodup ∧ ∀ e ∈ d, e.2.Sound := by
  constructor
  · rintro (_ | _ | _ | _ | _ | _ | ⟨once, h⟩)
    exact ⟨once, h⟩
  · exact fun h => .table h.1 h.2

namespace Tree

variable {t u v : Tree} {i j : Item} {name : String} {l : Label}

def names (t : Tree) : List String := t.map (·.1.name)

def Sound (t : Tree) : Prop := WellFormed t.toEntries

lemma entriesOf_eq_map (t : Tree) : entriesOf t = t.map fun e => (e.1, toValue e.2) := by
  induction t with
  | nil => rfl
  | cons e r ih => rw [entriesOf, ih, List.map_cons]

lemma valuesOf_eq_map (ts : List Tree) : valuesOf ts = ts.map fun t => .table t.toEntries := by
  induction ts with
  | nil => rfl
  | cons t r ih =>
    rw [valuesOf, ih, List.map_cons]
    rfl

lemma sound_iff : t.Sound ↔ t.names.Nodup ∧ ∀ e ∈ t, (toValue e.2).Sound := by
  rw [Sound, toEntries, wellFormed_iff, entriesOf_eq_map, List.map_map, List.forall_mem_map]
  rfl

lemma sound_nil : Sound [] := sound_iff.mpr ⟨List.nodup_nil, by simp⟩

@[simp] lemma sound_toValue_value {x : Value} : (toValue (.value x)).Sound ↔ x.Sound := by
  rw [toValue]

@[simp] lemma sound_toValue_table {o : Origin} : (toValue (.table o t)).Sound ↔ t.Sound := by
  rw [toValue]
  rfl

@[simp] lemma sound_toValue_tables {ts : List Tree} :
    (toValue (.tables ts)).Sound ↔ ∀ t ∈ ts, t.Sound := by
  rw [toValue, valuesOf_eq_map]
  constructor
  · rintro (_ | _ | _ | _ | _ | h | _) t ht
    exact h _ (List.mem_map_of_mem ht)
  · intro h
    refine .array fun x hx => ?_
    obtain ⟨t, ht, rfl⟩ := List.mem_map.mp hx
    exact h t ht

section Entries

lemma find?_eq_none_iff : t.find? name = none ↔ name ∉ t.names := by
  induction t with
  | nil => simp [find?, names]
  | cons e r ih =>
    by_cases h : e.1.name = name
    · simp [find?, names, h]
    · simpa [find?, names, h, Ne.symm h] using ih

lemma mem_of_find? (h : t.find? name = some i) : ∃ l, (l, i) ∈ t := by
  induction t with
  | nil => cases h
  | cons e r ih =>
    rw [find?] at h
    split at h
    · obtain rfl := Option.some.inj h
      exact ⟨e.1, List.mem_cons_self⟩
    · exact (ih h).imp fun l hl => List.mem_cons_of_mem _ hl

lemma sound_of_find? (ht : t.Sound) (h : t.find? name = some i) : (toValue i).Sound := by
  obtain ⟨l, hl⟩ := mem_of_find? h
  exact (sound_iff.mp ht).2 _ hl

lemma names_replace (t : Tree) : (t.replace name i).names = t.names := by
  rw [names, replace, names, List.map_map]
  refine List.map_congr_left fun e _ => ?_
  by_cases h : e.1.name = name <;> simp [h]

lemma sound_replace (ht : t.Sound) (hi : (toValue i).Sound) : (t.replace name i).Sound := by
  obtain ⟨once, h⟩ := sound_iff.mp ht
  refine sound_iff.mpr ⟨by rwa [names_replace], fun e he => ?_⟩
  obtain ⟨f, hf, rfl⟩ := List.mem_map.mp he
  by_cases hname : f.1.name = name
  · simpa [hname] using hi
  · simpa [hname] using h f hf

lemma sound_append (ht : t.Sound) (hfree : t.find? l.name = none) (hi : (toValue i).Sound) :
    (t.append l i).Sound := by
  obtain ⟨once, h⟩ := sound_iff.mp ht
  have hnames : (t.append l i).names = t.names.concat l.name := by simp [names, append]
  refine sound_iff.mpr ⟨?_, fun e he => ?_⟩
  · rw [hnames]
    exact once.concat (find?_eq_none_iff.mp hfree)
  · rcases List.mem_append.mp he with he | he
    · exact h e he
    · rw [List.mem_singleton.mp he]
      exact hi

lemma sound_remove (ht : t.Sound) : (t.remove name).Sound := by
  obtain ⟨once, h⟩ := sound_iff.mp ht
  refine sound_iff.mpr ⟨?_, fun e he => h e (List.mem_of_mem_filter he)⟩
  exact (List.filter_sublist.map _).nodup once

lemma find?_remove (t : Tree) : (t.remove name).find? name = none := by
  rw [find?_eq_none_iff]
  simp [names, remove]

lemma find?_append (hfree : t.find? l.name = none) : (t.append l i).find? l.name = some i := by
  induction t with
  | nil => simp [append, find?]
  | cons e r ih =>
    rw [find?] at hfree
    split at hfree
    · cases hfree
    · next hne => simpa [append, find?, hne] using ih hfree

lemma find?_replace (h : t.find? name = some i) : (t.replace name j).find? name = some j := by
  induction t with
  | nil => cases h
  | cons e r ih =>
    by_cases hname : e.1.name = name
    · simp [replace, find?, hname]
    · simpa [replace, find?, hname] using ih (by simpa [find?, hname] using h)

lemma replace_append (hfree : t.find? l.name = none) :
    (t.append l i).replace l.name j = t.append l j := by
  have hkeep : t.replace l.name j = t := by
    refine (List.map_congr_left fun e he => if_neg fun h => ?_).trans t.map_id
    exact find?_eq_none_iff.mp hfree (h ▸ List.mem_map_of_mem he)
  rw [replace] at hkeep
  simp [append, replace, hkeep]

lemma replace_replace (t : Tree) : (t.replace name i).replace name j = t.replace name j := by
  rw [replace, replace, replace, List.map_map]
  refine List.map_congr_left fun e _ => ?_
  by_cases h : e.1.name = name <;> simp [h]

end Entries

section Paths

variable {origin : Origin} {path : List Part} {b : Bool}
  {change next : Bool → Tree → Option Tree}

lemma exists_of_changeLast {f : Tree → Option Tree} {ts us : List Tree}
    (h : changeLast f ts = some us) :
    ∃ before t u, ts = before ++ [t] ∧ f t = some u ∧ us = before ++ [u] := by
  induction ts generalizing us with
  | nil => cases h
  | cons t r ih =>
    cases r with
    | nil =>
      obtain ⟨u, hu, rfl⟩ := Option.map_eq_some_iff.mp h
      exact ⟨[], t, u, rfl, hu, rfl⟩
    | cons s r =>
      obtain ⟨us, hus, rfl⟩ := Option.map_eq_some_iff.mp h
      obtain ⟨before, last, u, hr, hu, rfl⟩ := ih hus
      exact ⟨t :: before, last, u, by rw [hr]; rfl, hu, rfl⟩

lemma changeLast_append (f : Tree → Option Tree) (before : List Tree) (t : Tree) :
    changeLast f (before ++ [t]) = (f t).map fun u => before ++ [u] := by
  induction before with
  | nil => rfl
  | cons s r ih =>
    have hrest : r ++ [t] ≠ [] := by simp
    rw [List.cons_append, changeLast]
    · rw [ih, Option.map_map]
      rfl
    · exact hrest

lemma sound_descend (hchange : ∀ {b t u}, Sound t → change b t = some u → Sound u) (ht : t.Sound)
    (h : descend origin change path b t = some u) : u.Sound := by
  induction path generalizing b t u with
  | nil => exact hchange ht h
  | cons p path ih =>
    rw [descend] at h
    split at h
    · next hfree =>
      obtain ⟨inner, hinner, hu⟩ := Option.bind_eq_some_iff.mp h
      obtain rfl := Option.some.inj hu
      exact sound_append ht hfree (sound_toValue_table.mpr (ih sound_nil hinner))
    · next o entries hfound =>
      split at h
      · cases h
      · obtain ⟨inner, hinner, hu⟩ := Option.bind_eq_some_iff.mp h
        obtain rfl := Option.some.inj hu
        have hentries : Sound entries := sound_toValue_table.mp (sound_of_find? ht hfound)
        exact sound_replace ht (sound_toValue_table.mpr (ih hentries hinner))
    · next ts hfound =>
      obtain ⟨us, hus, hu⟩ := Option.bind_eq_some_iff.mp h
      obtain rfl := Option.some.inj hu
      obtain ⟨before, last, changed, rfl, hlast, rfl⟩ := exists_of_changeLast hus
      have hts := sound_toValue_tables.mp (sound_of_find? ht hfound)
      refine sound_replace ht (sound_toValue_tables.mpr fun s hs => ?_)
      rcases List.mem_append.mp hs with hs | hs
      · exact hts s (List.mem_append_left _ hs)
      · rw [List.mem_singleton.mp hs]
        exact ih (hts last (by simp)) hlast
    · cases h

/-- Two changes at the end of one path are one change there. -/
lemma descend_descend (h : descend origin change path b t = some u) :
    descend origin next path b u =
      descend origin (fun b t => (change b t).bind (next b)) path b t := by
  induction path generalizing b t u with
  | nil =>
    simp only [descend] at h ⊢
    rw [h]
    rfl
  | cons p path ih =>
    rw [descend] at h
    split at h
    · next hfree =>
      obtain ⟨inner, hinner, hu⟩ := Option.bind_eq_some_iff.mp h
      obtain rfl := Option.some.inj hu
      have hfound := find?_append (l := ⟨p.name, p.place, p.place⟩) (i := .table origin inner) hfree
      -- the second descent meets the table that the first one made
      have hnot : ¬ (origin = .dotted ∧ origin = .headed) := by
        rintro ⟨rfl, h⟩
        cases h
      simp only [descend, hfound, hfree, if_neg hnot, ih hinner]
      congr 1
      funext inner
      rw [replace_append (l := ⟨p.name, p.place, p.place⟩) hfree]
    · next o entries hfound =>
      split at h
      · cases h
      · next hnot =>
        obtain ⟨inner, hinner, hu⟩ := Option.bind_eq_some_iff.mp h
        obtain rfl := Option.some.inj hu
        simp only [descend, find?_replace hfound, hfound, if_neg hnot, ih hinner, replace_replace]
    · next ts hfound =>
      obtain ⟨us, hus, hu⟩ := Option.bind_eq_some_iff.mp h
      obtain rfl := Option.some.inj hu
      obtain ⟨before, last, changed, rfl, hlast, rfl⟩ := exists_of_changeLast hus
      simp only [descend, find?_replace hfound, hfound, changeLast_append, ih hlast,
        replace_replace]
    · cases h

lemma sound_follow (ht : t.Sound) (h : follow path t = some u) : u.Sound := by
  induction path generalizing t with
  | nil =>
    rw [← Option.some.inj h]
    exact ht
  | cons p path ih =>
    rw [follow] at h
    split at h
    · next hfound => exact ih (sound_toValue_table.mp (sound_of_find? ht hfound)) h
    · next ts hfound =>
      obtain ⟨last, hlast, hu⟩ := Option.bind_eq_some_iff.mp h
      have hts := sound_toValue_tables.mp (sound_of_find? ht hfound)
      exact ih (hts last (List.mem_of_getLast? hlast)) hu
    · cases h

lemma sound_passedEntries (k : Key) (ht : t.Sound) : (t.passedEntries k).Sound := by
  rw [passedEntries]
  split
  · next hfound =>
    obtain ⟨inner, hinner, hfound⟩ := Option.bind_eq_some_iff.mp hfound
    exact sound_toValue_table.mp (sound_of_find? (sound_follow ht hinner) hfound)
  · exact sound_nil

lemma sound_put {k : Key} {place : Nat} {x : Value} (ht : t.Sound) (hx : x.Sound)
    (h : t.put k place x = some u) : u.Sound := by
  refine sound_descend (fun {b t u} ht h => ?_) ht h
  split at h
  · cases h
  · next hfree =>
    rw [← Option.some.inj h]
    refine sound_append ht ?_ (sound_toValue_value.mpr hx)
    rw [Bool.or_eq_true, not_or, Bool.not_eq_true, Option.not_isSome_iff_eq_none] at hfree
    exact hfree.2

end Paths

end Tree

namespace Builder

variable {b c : Builder} {k : Key} {place : Nat}

/-- The open table goes into its place soundly, whatever sound entries it will have. -/
structure Sound (b : Builder) : Prop where
  current : b.current.Sound
  closes : ∀ entries t, Tree.Sound entries → { b with current := entries }.close = some t → t.Sound

lemma sound_empty : empty.Sound where
  current := Tree.sound_nil
  closes := fun _ _ hentries h => Option.some.inj h ▸ hentries

lemma Sound.close {t : Tree} (hb : b.Sound) (h : b.close = some t) : t.Sound :=
  hb.closes b.current t hb.current h

lemma Sound.put {x : Value} (hb : b.Sound) (hx : x.Sound) (h : b.put k place x = some c) :
    c.Sound := by
  obtain ⟨current, hcurrent, hc⟩ := Option.bind_eq_some_iff.mp h
  obtain rfl := Option.some.inj hc
  exact ⟨Tree.sound_put hb.current hx hcurrent, hb.closes⟩

/-- The name of an open table is free: none was there, or it was taken out. -/
lemma Sound.openTable (hb : b.Sound) (h : b.openTable k place = some c) : c.Sound := by
  obtain ⟨root, hroot, h⟩ := Option.bind_eq_some_iff.mp h
  obtain ⟨checked, hchecked, hc⟩ := Option.bind_eq_some_iff.mp h
  obtain rfl := Option.some.inj hc
  have hsound : root.Sound := hb.close hroot
  refine ⟨Tree.sound_passedEntries k hsound, fun entries t hentries ht => ?_⟩
  change Tree.descend .passed _ k.path false checked = some t at ht
  -- the check at the opening and the append at the closing, as one change of the root before
  rw [Tree.descend_descend hchecked] at ht
  refine Tree.sound_descend (fun {b t u} ht hu => ?_) hsound ht
  obtain ⟨s, hs, hu⟩ := Option.bind_eq_some_iff.mp hu
  have hfree : s.Sound ∧ s.find? k.last.name = none := by
    split at hs
    · next hnone =>
      obtain rfl := Option.some.inj hs
      exact ⟨ht, hnone⟩
    · obtain rfl := Option.some.inj hs
      exact ⟨Tree.sound_remove ht, Tree.find?_remove t⟩
    · cases hs
  obtain rfl := Option.some.inj hu
  exact Tree.sound_append hfree.1 hfree.2 (Tree.sound_toValue_table.mpr hentries)

lemma Sound.openItem (hb : b.Sound) (h : b.openItem k place = some c) : c.Sound := by
  obtain ⟨root, hroot, h⟩ := Option.bind_eq_some_iff.mp h
  obtain ⟨checked, hchecked, hc⟩ := Option.bind_eq_some_iff.mp h
  obtain rfl := Option.some.inj hc
  have hsound : checked.Sound := by
    refine Tree.sound_descend (fun {b t u} ht hu => ?_) (hb.close hroot) hchecked
    split at hu
    · rwa [← Option.some.inj hu]
    · rwa [← Option.some.inj hu]
    · cases hu
  refine ⟨Tree.sound_nil, fun entries t hentries ht => ?_⟩
  refine Tree.sound_descend (fun {b t u} ht hu => ?_) hsound ht
  simp only [if_true] at hu
  split at hu
  · next ts hfound =>
    obtain rfl := Option.some.inj hu
    have hts := Tree.sound_toValue_tables.mp (Tree.sound_of_find? ht hfound)
    refine Tree.sound_replace ht (Tree.sound_toValue_tables.mpr fun s hs => ?_)
    rcases List.mem_append.mp hs with hs | hs
    · exact hts s hs
    · rw [List.mem_singleton.mp hs]
      exact hentries
  · cases hu
  · next hfree =>
    obtain rfl := Option.some.inj hu
    exact Tree.sound_append ht hfree (Tree.sound_toValue_tables.mpr (by simpa using hentries))

end Builder

end DeviceFleet.Toml
