import DeviceFleet.Proofs.Text.Encoding

/-! Hexadecimal digits are written in one way only, and what is read from them as characters is read
from them as bytes. -/

namespace DeviceFleet.Text

variable {c : Char} {cs : List Char} {bytes : List UInt8}

def Hex.IsDigit (c : Char) : Prop := ('0' ≤ c ∧ c ≤ '9') ∨ ('a' ≤ c ∧ c ≤ 'f')

lemma Hex.isDigit_iff : IsDigit c ↔ ∃ n < 16, digitChar n = c := by
  constructor
  · intro h
    have hc : c.toNat < 128 := by
      rcases h with ⟨_, h⟩ | ⟨_, h⟩ <;>
        exact Nat.lt_of_le_of_lt (Char.le_def.mp h) (by decide)
    have hall : ∀ k < 128, IsDigit (Char.ofNat k) → ∃ n < 16, digitChar n = Char.ofNat k := by
      unfold IsDigit
      decide
    simpa using hall c.toNat hc (by simpa using h)
  · rintro ⟨n, hn, rfl⟩
    have hall : ∀ n < 16, IsDigit (digitChar n) := by
      unfold IsDigit
      decide
    exact hall n hn

lemma Hex.digit?_eq_some_iff {n : Nat} : digit? c = some n ↔ n < 16 ∧ digitChar n = c := by
  constructor
  · intro h
    have hc : IsDigit c := by
      rw [digit?] at h
      split at h
      · next hdigit => exact .inl hdigit
      · split at h
        · next hletter => exact .inr hletter
        · cases h
    obtain ⟨m, hm, rfl⟩ := isDigit_iff.mp hc
    rw [digit?_digitChar hm] at h
    obtain rfl := Option.some.inj h
    exact ⟨hm, rfl⟩
  · rintro ⟨hn, rfl⟩
    exact digit?_digitChar hn

lemma Hex.encode_cons_of_lt {m n : Nat} (hm : m < 16) (hn : n < 16) (rest : List UInt8) :
    encode (UInt8.ofNat (16 * m + n) :: rest) = digitChar m :: digitChar n :: encode rest := by
  have hbyte : (UInt8.ofNat (16 * m + n)).toNat = 16 * m + n :=
    UInt8.toNat_ofNat_of_lt' (show 16 * m + n < 256 by omega)
  have hhigh : (16 * m + n) / 16 = m := by omega
  have hlow : (16 * m + n) % 16 = n := by omega
  rw [encode, hbyte, hhigh, hlow]

/-- The only text from which bytes are read is the one that is written for them. -/
lemma Hex.encode_of_decode (h : decode cs = some bytes) : encode bytes = cs := by
  fun_induction decode cs generalizing bytes with
  | case1 => rw [← Option.some.inj h, encode]
  | case2 => cases h
  | case3 high low r ih =>
    simp only [Option.bind_eq_bind, Option.bind_eq_some_iff] at h
    obtain ⟨m, hhigh, n, hlow, rest, hrest, heq⟩ := h
    obtain rfl := Option.some.inj heq
    obtain ⟨hm, rfl⟩ := digit?_eq_some_iff.mp hhigh
    obtain ⟨hn, rfl⟩ := digit?_eq_some_iff.mp hlow
    rw [encode_cons_of_lt hm hn, ih hrest]

lemma Hex.decode_eq_some_iff : decode cs = some bytes ↔ encode bytes = cs :=
  ⟨encode_of_decode, fun h => h ▸ decode_encode bytes⟩

lemma Hex.isDigit_of_mem_encode (h : c ∈ encode bytes) : IsDigit c := by
  induction bytes with
  | nil => cases h
  | cons b r ih =>
    have hb : b.toNat < 256 := b.toNat_lt
    rcases List.mem_cons.mp h with rfl | h
    · exact isDigit_iff.mpr ⟨_, by omega, rfl⟩
    · rcases List.mem_cons.mp h with rfl | h
      · exact isDigit_iff.mpr ⟨_, by omega, rfl⟩
      · exact ih h

lemma Hex.length_encode (bytes : List UInt8) : (encode bytes).length = 2 * bytes.length := by
  induction bytes with
  | nil => rfl
  | cons b r ih =>
    simp only [encode, List.length_cons, ih]
    omega

lemma Hex.exists_decode (hdigits : ∀ c ∈ cs, IsDigit c) (heven : cs.length % 2 = 0) :
    ∃ bytes, decode cs = some bytes := by
  fun_induction decode cs with
  | case1 => exact ⟨[], rfl⟩
  | case2 => simp at heven
  | case3 high low r ih =>
    simp only [List.forall_mem_cons] at hdigits
    obtain ⟨hhigh, hlow, hrest⟩ := hdigits
    obtain ⟨m, hm, rfl⟩ := isDigit_iff.mp hhigh
    obtain ⟨n, hn, rfl⟩ := isDigit_iff.mp hlow
    obtain ⟨rest, hrest⟩ := ih hrest (by simp only [List.length_cons] at heven; omega)
    exact ⟨_, by simp only [digit?_digitChar hm, digit?_digitChar hn, hrest]; rfl⟩

lemma Hex.isAscii_of_isDigit (h : ∀ c ∈ cs, IsDigit c) : IsAscii cs := by
  intro c hc
  obtain ⟨n, hn, rfl⟩ := isDigit_iff.mp (h c hc)
  have hall : ∀ n < 16, (digitChar n).toNat < 128 := by decide
  exact hall n hn

lemma Utf8.eq_of_bytes_eq {s t : String} (h : Utf8.bytes s = Utf8.bytes t) : s = t :=
  Option.some.inj ((decode?_bytes s).symm.trans (h ▸ decode?_bytes t))

lemma Utf8.decode?_eq_some_iff {s : String} : decode? bytes = some s ↔ Utf8.bytes s = bytes := by
  constructor
  · intro h
    rw [decode?, String.fromUTF8?] at h
    split at h
    · rw [← Option.some.inj h, bytes_eq]
      rfl
    · cases h
  · rintro rfl
    exact decode?_bytes s

def byteChar (b : UInt8) : Char := Char.ofNat b.toNat

lemma asciiByte_byteChar (b : UInt8) : asciiByte (byteChar b) = b := by
  have hall : ∀ n < 256, (Char.ofNat n).toNat = n := by decide +kernel
  rw [asciiByte, byteChar, hall b.toNat b.toNat_lt, UInt8.ofNat_toNat]

lemma byteChar_asciiByte (h : c.toNat < 128) : byteChar (asciiByte c) = c := by
  rw [byteChar, toNat_asciiByte h, Char.ofNat_toNat]

/-- It makes no difference whether digits are read from characters or from bytes. -/
lemma Hex.decode_bytes (s : String) : decode ((Utf8.bytes s).map byteChar) = decode s.toList := by
  refine Option.ext fun b => ?_
  have hascii : IsAscii (encode b) := isAscii_of_isDigit fun _ => isDigit_of_mem_encode
  rw [decode_eq_some_iff, decode_eq_some_iff]
  constructor
  · intro h
    have hbytes : Utf8.bytes s = Utf8.bytes (String.ofList (encode b)) := by
      rw [Utf8.bytes_of_ascii hascii, h, List.map_map]
      exact (List.map_id'' asciiByte_byteChar _).symm
    rw [Utf8.eq_of_bytes_eq hbytes, String.toList_ofList]
  · intro h
    have hs : s = String.ofList (encode b) := by rw [h, String.ofList_toList]
    rw [hs, Utf8.bytes_of_ascii hascii, List.map_map]
    have hback : ∀ c ∈ encode b, (byteChar ∘ asciiByte) c = c :=
      fun c hc => byteChar_asciiByte (hascii c hc)
    rw [List.map_congr_left hback, List.map_id']

end DeviceFleet.Text
