import DeviceFleet.Text.Blank
import DeviceFleet.Text.Cut
import Mathlib.Data.List.DropRight
import Mathlib.Tactic.Lemma

/-! What is left of a text after trimming, and the two parts into which a separator cuts one. -/

namespace DeviceFleet.Text

/-- One text stands in another with nothing but white space around it. -/
def Framed (core s : List Char) : Prop :=
  ∃ before after, (∀ c ∈ before, isWhite c) ∧ (∀ c ∈ after, isWhite c) ∧
    s = before ++ core ++ after

/-- The visible characters of ASCII. -/
lemma isWhite_of_visible {c : Char} (h : 32 < c.toNat ∧ c.toNat < 127) : isWhite c = false := by
  simp only [isWhite, inRanges, blanks, List.any_eq_false, List.mem_cons, Bool.and_eq_true,
    decide_eq_true_eq]
  rintro r (rfl | rfl | rfl | rfl | rfl | rfl | rfl | rfl | rfl | rfl | hr)
  all_goals first | omega | simp at hr

section Trimming

variable {s t core : List Char}

lemma trimStart_white_append (h : ∀ c ∈ s, isWhite c) (t : List Char) :
    trimStart (s ++ t) = trimStart t := List.dropWhile_append_of_pos h

lemma trimStart_append_of_dark (h : ∃ c ∈ s, isWhite c = false) (t : List Char) :
    trimStart (s ++ t) = trimStart s ++ t := by
  have hne : (s.dropWhile isWhite).isEmpty = false := by
    obtain ⟨c, hc, hdark⟩ := h
    rw [List.isEmpty_eq_false_iff, ne_eq, List.dropWhile_eq_nil_iff]
    intro hwhite
    simp [hwhite c hc] at hdark
  rw [trimStart, List.dropWhile_append, hne]
  rfl

lemma trimEnd_append_white (s : List Char) (h : ∀ c ∈ t, isWhite c) :
    trimEnd (s ++ t) = trimEnd s := by
  have hrev : ∀ c ∈ t.reverse, isWhite c := fun c hc => h c (List.mem_reverse.mp hc)
  rw [trimEnd, List.reverse_append]
  exact congrArg List.reverse (trimStart_white_append hrev s.reverse)

lemma trimEnd_append_of_dark (s : List Char) (h : ∃ c ∈ t, isWhite c = false) :
    trimEnd (s ++ t) = s ++ trimEnd t := by
  have hrev : ∃ c ∈ t.reverse, isWhite c = false := by simpa using h
  rw [trimEnd, List.reverse_append]
  have htrim := congrArg List.reverse (trimStart_append_of_dark hrev s.reverse)
  rw [List.reverse_append, List.reverse_reverse] at htrim
  exact htrim

lemma exists_before_trimStart (s : List Char) :
    ∃ before, (∀ c ∈ before, isWhite c) ∧ s = before ++ trimStart s :=
  ⟨s.takeWhile isWhite, fun _ => List.mem_takeWhile_imp, List.takeWhile_append_dropWhile.symm⟩

lemma exists_after_trimEnd (s : List Char) :
    ∃ after, (∀ c ∈ after, isWhite c) ∧ s = trimEnd s ++ after := by
  obtain ⟨before, hwhite, hs⟩ := exists_before_trimStart s.reverse
  refine ⟨before.reverse, by simpa using hwhite, ?_⟩
  have hrev := congrArg List.reverse hs
  rwa [List.reverse_reverse, List.reverse_append] at hrev

lemma framed_trimChars (s : List Char) : Framed (trimChars s) s := by
  obtain ⟨before, hbefore, hstart⟩ := exists_before_trimStart s
  obtain ⟨after, hafter, hend⟩ := exists_after_trimEnd (trimStart s)
  refine ⟨before, after, hbefore, hafter, ?_⟩
  rw [trimChars, List.append_assoc, ← hend]
  exact hstart

lemma trimChars_eq_nil_iff : trimChars s = [] ↔ ∀ c ∈ s, isWhite c := by
  constructor
  · intro h
    obtain ⟨before, after, hbefore, hafter, hs⟩ := framed_trimChars s
    rw [h, List.append_nil] at hs
    rw [hs]
    exact List.forall_mem_append.mpr ⟨hbefore, hafter⟩
  · intro h
    have hstart : trimStart s = [] := List.dropWhile_eq_nil_iff.mpr h
    rw [trimChars, hstart]
    rfl

lemma trimChars_append_of_dark {s t : List Char} (hs : ∃ c ∈ s, isWhite c = false)
    (ht : ∃ c ∈ t, isWhite c = false) : trimChars (s ++ t) = trimStart s ++ trimEnd t := by
  rw [trimChars, trimStart_append_of_dark hs, trimEnd_append_of_dark _ ht]

lemma Framed.trimChars (h : Framed core s) : trimChars s = trimChars core := by
  obtain ⟨before, after, hbefore, hafter, rfl⟩ := h
  by_cases hcore : ∃ c ∈ core, isWhite c = false
  · rw [Text.trimChars, List.append_assoc, trimStart_white_append hbefore,
      trimStart_append_of_dark hcore, trimEnd_append_white _ hafter, Text.trimChars]
  · have hwhite : ∀ c ∈ core, isWhite c := by simpa using hcore
    rw [trimChars_eq_nil_iff.mpr hwhite, trimChars_eq_nil_iff]
    simp only [List.forall_mem_append]
    exact ⟨⟨hbefore, hwhite⟩, hafter⟩

@[simp] lemma trimChars_trimChars (s : List Char) : trimChars (trimChars s) = trimChars s :=
  (framed_trimChars s).trimChars.symm

/-- Trimming gives the one text without white space that stands in another. -/
lemma Framed.trimChars_eq (h : Framed core s) (hdark : ∀ c ∈ core, isWhite c = false) :
    Text.trimChars s = core := by
  rw [h.trimChars]
  have hkeep (r : List Char) (hr : ∀ c ∈ r, isWhite c = false) : r.dropWhile isWhite = r := by
    cases r with
    | nil => rfl
    | cons c r => exact List.dropWhile_cons_of_neg (by simp [hr c List.mem_cons_self])
  have hrev : ∀ c ∈ core.reverse, isWhite c = false := by simpa using hdark
  rw [Text.trimChars, trimStart, hkeep core hdark, trimEnd, hkeep core.reverse hrev,
    List.reverse_reverse]

lemma trimEnd_cons_of_dark {c : Char} (h : isWhite c = false) (s : List Char) :
    trimEnd (c :: s) = c :: trimEnd s := by
  by_cases hs : ∃ d ∈ s, isWhite d = false
  · exact trimEnd_append_of_dark [c] hs
  · have hwhite : ∀ d ∈ s, isWhite d := by simpa using hs
    have hc : trimEnd [c] = [c] := by simp [trimEnd, h]
    have hend : trimEnd s = [] := by simpa [trimEnd] using hwhite
    rw [← List.singleton_append, trimEnd_append_white [c] hwhite, hc, hend]

lemma Framed.refl (s : List Char) : Framed s s := ⟨[], [], nofun, nofun, by simp⟩

lemma Framed.mem_or_isWhite {c : Char} (h : Framed core s) (hc : c ∈ s) : c ∈ core ∨ isWhite c := by
  obtain ⟨before, after, hbefore, hafter, rfl⟩ := h
  rw [List.mem_append, List.mem_append] at hc
  rcases hc with (hc | hc) | hc
  · exact .inr (hbefore c hc)
  · exact .inl hc
  · exact .inr (hafter c hc)

lemma Framed.mem {c : Char} (h : Framed core s) (hc : c ∈ core) : c ∈ s := by
  obtain ⟨before, after, -, -, rfl⟩ := h
  simp [hc]

lemma framed_trimStart (s : List Char) : Framed (trimStart s) s := by
  obtain ⟨before, hbefore, hs⟩ := exists_before_trimStart s
  exact ⟨before, [], hbefore, nofun, by simpa using hs⟩

lemma framed_trimEnd (s : List Char) : Framed (trimEnd s) s := by
  obtain ⟨after, hafter, hs⟩ := exists_after_trimEnd s
  exact ⟨[], after, nofun, hafter, hs⟩

lemma isBlank_eq_false_iff {s : String} :
    isBlank s = false ↔ ∃ c ∈ s.toList, isWhite c = false := by
  rw [isBlank, List.isEmpty_eq_false_iff, ne_eq, trimChars_eq_nil_iff]
  simp

/-- A trimmed text starts with a character that is not white. -/
lemma dark_of_trimChars_eq_cons {c : Char} {r : List Char} (h : trimChars s = c :: r) :
    isWhite c = false := by
  obtain ⟨after, _, hend⟩ := exists_after_trimEnd (trimStart s)
  have hstart : s.dropWhile isWhite = c :: (r ++ after) := by
    rw [← trimStart, hend, ← trimChars, h, List.cons_append]
  have hhead := List.head_dropWhile_not (p := isWhite) (by simp [hstart] : s.dropWhile isWhite ≠ [])
  simpa [hstart] using hhead

end Trimming

section Cutting

variable {sep : Char} {s before after : List Char}

lemma cutFirst_eq_some_iff :
    cutFirst sep s = some (before, after) ↔ s = before ++ sep :: after ∧ sep ∉ before := by
  induction s generalizing before with
  | nil => simp [cutFirst]
  | cons c r ih =>
    rw [cutFirst]
    by_cases hc : c = sep
    · subst hc
      cases before with
      | nil => simp
      | cons b rest =>
        simp only [if_pos, Option.some.injEq, Prod.mk.injEq, List.nil_eq, reduceCtorEq, false_and,
          List.cons_append, List.cons.injEq, List.mem_cons, not_or, false_iff]
        rintro ⟨⟨rfl, _⟩, hne, _⟩
        exact hne rfl
    · rw [if_neg hc]
      cases before with
      | nil => simp [hc]
      | cons b rest =>
        simp only [Option.map_eq_some_iff, Prod.exists, Prod.mk.injEq, List.cons.injEq,
          List.cons_append, List.mem_cons, not_or]
        constructor
        · rintro ⟨h, t, hcut, ⟨rfl, rfl⟩, rfl⟩
          obtain ⟨rfl, hnot⟩ := ih.mp hcut
          exact ⟨⟨rfl, rfl⟩, fun h => hc h.symm, hnot⟩
        · rintro ⟨⟨rfl, hr⟩, _, hnot⟩
          exact ⟨rest, after, ih.mpr ⟨hr, hnot⟩, ⟨rfl, rfl⟩, rfl⟩

lemma cutFirst_eq_none_iff : cutFirst sep s = none ↔ sep ∉ s := by
  constructor
  · intro h hmem
    obtain ⟨before, after, hs, hnot⟩ := List.eq_append_cons_of_mem hmem
    rw [cutFirst_eq_some_iff.mpr ⟨hs, hnot⟩] at h
    exact absurd h nofun
  · intro h
    rw [Option.eq_none_iff_forall_ne_some]
    rintro ⟨before, after⟩ hcut
    rw [(cutFirst_eq_some_iff.mp hcut).1] at h
    exact h (by simp)

lemma cutLast_eq_some_iff :
    cutLast sep s = some (before, after) ↔ s = before ++ sep :: after ∧ sep ∉ after := by
  have hrev : cutLast sep s = some (before, after) ↔
      cutFirst sep s.reverse = some (after.reverse, before.reverse) := by
    simp only [cutLast, Option.map_eq_some_iff, Prod.exists, Prod.mk.injEq, List.reverse_eq_iff]
    constructor
    · rintro ⟨a, b, h, rfl, rfl⟩
      exact h
    · intro h
      exact ⟨_, _, h, rfl, rfl⟩
  rw [hrev, cutFirst_eq_some_iff, List.reverse_eq_iff, List.mem_reverse]
  simp

end Cutting

end DeviceFleet.Text
