import DeviceFleet.Proofs.Text.Transport
import Mathlib.Data.String.Basic
import Mathlib.Tactic.SplitIfs

/-! Texts compare by their characters as they do by the bytes of their encoding. -/

namespace DeviceFleet.Text

lemma ofNat_cons_lt_iff {m n : Nat} (hm : m < 256) (hn : n < 256) {xs ys : List UInt8} :
    UInt8.ofNat m :: xs < UInt8.ofNat n :: ys ↔ m < n ∨ m = n ∧ xs < ys := by
  rw [List.cons_lt_cons_iff, UInt8.lt_iff_toNat_lt, ← UInt8.toNat_inj, UInt8.toNat_ofNat',
    UInt8.toNat_ofNat', Nat.mod_eq_of_lt hm, Nat.mod_eq_of_lt hn]

namespace Utf8

lemma sextets_lt {v w : Nat} (h : v < w) :
    v / 262144 < w / 262144 ∨ v / 262144 = w / 262144 ∧
      (v / 4096 % 64 < w / 4096 % 64 ∨ v / 4096 % 64 = w / 4096 % 64 ∧
        (v / 64 % 64 < w / 64 % 64 ∨ v / 64 % 64 = w / 64 % 64 ∧ v % 64 < w % 64)) := by
  omega

lemma encodeChar_lt {c d : Char} (h : c < d) (xs ys : List UInt8) :
    String.utf8EncodeChar c ++ xs < String.utf8EncodeChar d ++ ys := by
  have hlt : c.val.toNat < d.val.toNat := h
  have hd : d.val.toNat < 1114112 := by
    rcases d.valid with hd | hd
    · exact Nat.lt_trans hd (by decide)
    · exact hd.2
  simp only [String.utf8EncodeChar]
  generalize c.val.toNat = v, d.val.toNat = w at *
  by_cases hshort : v ≤ 65535
  · -- The first byte tells how many follow: encodings of different lengths differ there already.
    split_ifs <;>
      simp (disch := omega) only [List.cons_append, List.nil_append, ofNat_cons_lt_iff] <;> omega
  · have hv : ¬ v ≤ 127 ∧ ¬ v ≤ 2047 := by omega
    have hw : ¬ w ≤ 127 ∧ ¬ w ≤ 2047 ∧ ¬ w ≤ 65535 := by omega
    have hhigh : v / 262144 % 8 = v / 262144 ∧ w / 262144 % 8 = w / 262144 := by omega
    simp (disch := omega) only [hshort, hv, hw, if_false, List.cons_append, List.nil_append,
      ofNat_cons_lt_iff, hhigh, Nat.add_lt_add_iff_right, Nat.add_right_cancel_iff]
    rcases sextets_lt hlt with h₁ | ⟨h₁, h₂ | ⟨h₂, h₃ | ⟨h₃, h₄⟩⟩⟩
    · exact Or.inl h₁
    · exact Or.inr ⟨h₁, Or.inl h₂⟩
    · exact Or.inr ⟨h₁, Or.inr ⟨h₂, Or.inl h₃⟩⟩
    · exact Or.inr ⟨h₁, Or.inr ⟨h₂, Or.inr ⟨h₃, Or.inl h₄⟩⟩⟩

lemma encode_lt {cs ds : List Char} (h : cs < ds) :
    cs.flatMap String.utf8EncodeChar < ds.flatMap String.utf8EncodeChar := by
  induction h with
  | @nil d ds =>
    obtain ⟨b, bs, hb⟩ := List.exists_cons_of_ne_nil (String.utf8EncodeChar_ne_nil (c := d))
    rw [List.flatMap_nil, List.flatMap_cons, hb]
    exact List.nil_lt_cons b _
  | cons _ ih =>
    rw [List.flatMap_cons, List.flatMap_cons]
    exact List.append_left_lt ih
  | rel h =>
    rw [List.flatMap_cons, List.flatMap_cons]
    exact encodeChar_lt h _ _

lemma bytes_eq_flatMap (s : String) : bytes s = s.toList.flatMap String.utf8EncodeChar := by
  have hencoded : s.toUTF8 = s.toList.utf8Encode := by
    rw [← String.toByteArray_ofList, String.ofList_toList]
    rfl
  rw [bytes_eq, hencoded, List.utf8Encode, List.toList_data_toByteArray]

theorem bytes_lt_iff {a b : String} : bytes a < bytes b ↔ a < b := by
  have hmono {a b : String} (h : a < b) : bytes a < bytes b := by
    rw [bytes_eq_flatMap, bytes_eq_flatMap]
    exact encode_lt (String.lt_iff_toList_lt.mp h)
  refine ⟨fun h => ?_, hmono⟩
  rcases lt_trichotomy a b with hlt | rfl | hgt
  · exact hlt
  · exact absurd h (List.lt_irrefl _)
  · exact absurd h (List.lt_asymm (hmono hgt))

end Utf8

end DeviceFleet.Text
