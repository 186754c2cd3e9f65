import DeviceFleet.Text.Cut
import Mathlib.Tactic.Lemma

/-! The segments between separators, which are found again in the text that joins them. -/

namespace DeviceFleet.Text

variable {sep : Char} {s p : List Char} {ps : List (List Char)}

lemma segments_eq_splitOn (sep : Char) (s : List Char) : segments sep s = s.splitOn sep := by
  induction s with
  | nil => simp [segments]
  | cons c r ih =>
    rw [segments, List.splitOn_cons_eq_if_modifyHead, ih]
    simp

lemma segments_append_cons (p r : List Char) :
    segments sep (p ++ sep :: r) = segments sep p ++ segments sep r := by
  simp only [segments_eq_splitOn, List.splitOn_append_cons_self]

lemma segments_join (h : ∀ p ∈ ps, sep ∉ p) (hne : ps ≠ []) :
    segments sep ([sep].intercalate ps) = ps := by
  rw [segments_eq_splitOn, List.splitOn_intercalate sep h hne]

lemma not_mem_of_mem_segments (h : p ∈ segments sep s) : sep ∉ p := by
  induction s generalizing p with
  | nil =>
    obtain rfl := List.mem_singleton.mp h
    exact List.not_mem_nil
  | cons c r ih =>
    rw [segments] at h
    by_cases hc : c = sep
    · rw [if_pos hc, List.mem_cons] at h
      rcases h with rfl | h
      · exact List.not_mem_nil
      · exact ih h
    · rw [if_neg hc] at h
      cases hr : segments sep r with
      | nil => simp [hr] at h
      | cons q rest =>
        rw [hr, List.modifyHead_cons, List.mem_cons] at h
        rcases h with rfl | h
        · rw [List.mem_cons, not_or]
          exact ⟨Ne.symm hc, ih (hr ▸ List.mem_cons_self)⟩
        · exact ih (hr ▸ List.mem_cons_of_mem q h)

end DeviceFleet.Text
