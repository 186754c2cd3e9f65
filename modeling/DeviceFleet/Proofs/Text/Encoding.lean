import DeviceFleet.Proofs.Text.Transport
import DeviceFleet.Text.Percent

/-! Texts of ASCII, in which requests are written: each character is one byte, and a percent code
stands for one. -/

namespace DeviceFleet.Text

section Ascii

variable {cs : List Char}

def IsAscii (cs : List Char) : Prop := ∀ c ∈ cs, c.toNat < 128

def asciiByte (c : Char) : UInt8 := UInt8.ofNat c.toNat

lemma toNat_asciiByte {c : Char} (h : c.toNat < 128) : (asciiByte c).toNat = c.toNat :=
  UInt8.toNat_ofNat_of_lt' (Nat.lt_trans h (by decide))

lemma asciiByte_ne {c d : Char} (hc : c.toNat < 128) (hd : d.toNat < 128) (h : c ≠ d) :
    asciiByte c ≠ asciiByte d := by
  intro hbyte
  have hnat := congrArg UInt8.toNat hbyte
  rw [toNat_asciiByte hc, toNat_asciiByte hd] at hnat
  exact h (Char.toNat_inj.mp hnat)

lemma utf8EncodeChar_of_ascii {c : Char} (h : c.toNat < 128) :
    String.utf8EncodeChar c = [asciiByte c] := by
  have hsize : c.utf8Size = 1 := by
    rw [Char.utf8Size_eq_one_iff]
    simpa [UInt32.le_iff_toNat_le] using Nat.le_of_lt_succ h
  rw [String.utf8EncodeChar_eq_singleton hsize]
  rfl

lemma Utf8.bytes_of_ascii (h : IsAscii cs) : bytes (String.ofList cs) = cs.map asciiByte := by
  have hflat : bytes (String.ofList cs) = cs.flatMap String.utf8EncodeChar := by
    simp [bytes_eq, String.toUTF8, List.utf8Encode]
  rw [hflat]
  clear hflat
  induction cs with
  | nil => rfl
  | cons c r ih =>
    rw [List.flatMap_cons, utf8EncodeChar_of_ascii (h c List.mem_cons_self),
      ih fun d hd => h d (List.mem_cons_of_mem c hd)]
    rfl

end Ascii

section Percent

variable {cs : List Char}

lemma Percent.decode_cons_of_ne {b : UInt8} (h : b ≠ 37) (r : List UInt8) :
    decode (b :: r) = b :: decode r := by
  rw [decode]
  intro _ _ _ hb
  exact absurd hb h

lemma Percent.decode_code {h l : UInt8} {high low : Nat} (hh : nibble? h = some high)
    (hl : nibble? l = some low) (r : List UInt8) :
    decode (37 :: h :: l :: r) = UInt8.ofNat (16 * high + low) :: decode r := by
  simp only [decode, hh, hl]

end Percent

end DeviceFleet.Text
