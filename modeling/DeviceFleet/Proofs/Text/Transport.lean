import DeviceFleet.Fleet.Page
import Mathlib.Tactic.Lemma

/-! Texts survive their way through bytes, and bytes their way through hexadecimal digits. So a page
token gives back the name it was made from. -/

namespace DeviceFleet

namespace Text

lemma Hex.digit?_digitChar {n : Nat} (h : n < 16) : digit? (digitChar n) = some n := by
  revert h n
  decide

lemma Hex.decode_encode (bytes : List UInt8) : decode (encode bytes) = some bytes := by
  induction bytes with
  | nil => rfl
  | cons b r ih =>
    have hb : b.toNat < 256 := b.toNat_lt
    have hhigh := digit?_digitChar (show b.toNat / 16 < 16 by omega)
    have hlow := digit?_digitChar (show b.toNat % 16 < 16 by omega)
    have hbyte : UInt8.ofNat (16 * (b.toNat / 16) + b.toNat % 16) = b := by
      rw [Nat.div_add_mod, UInt8.ofNat_toNat]
    simp only [encode, decode, hhigh, hlow, ih, bind, Option.bind, hbyte]

lemma Hex.encode_eq_nil_iff {bytes : List UInt8} : encode bytes = [] ↔ bytes = [] := by
  cases bytes <;> simp [encode]

/-- What has been listed comes first, then all bytes from the place reached. -/
lemma Utf8.listed_from (b : ByteArray) (i : Nat) (done : List UInt8) :
    ByteArray.toList.loop b i done = done.reverse ++ b.data.toList.drop i := by
  fun_induction ByteArray.toList.loop b i done with
  | case1 i done hi ih =>
    have hdrop : b.data.toList.drop i = b.get! i :: b.data.toList.drop (i + 1) := by
      have hlen : i < b.data.toList.length := by simpa using hi
      rw [List.drop_eq_getElem_cons hlen, Array.getElem_toList]
      exact congrArg (· :: _) (getElem!_pos b.data i hi).symm
    rw [ih, hdrop, List.reverse_cons, List.append_assoc, List.singleton_append]
  | case2 i done hi =>
    have hlen : b.data.toList.length ≤ i := by simpa using hi
    rw [List.drop_eq_nil_of_le hlen, List.append_nil]

lemma Utf8.bytes_eq (s : String) : bytes s = s.toUTF8.data.toList := by
  rw [bytes, ByteArray.toList, listed_from, List.reverse_nil, List.nil_append, List.drop_zero]

lemma Utf8.decode?_bytes (s : String) : decode? (bytes s) = some s := by
  have hbytes : (⟨(bytes s).toArray⟩ : ByteArray) = s.toUTF8 := by rw [bytes_eq]
  rw [decode?, hbytes]
  exact dif_pos s.isValidUTF8

lemma Utf8.bytes_empty : bytes "" = [] := by rw [bytes_eq]; rfl

lemma Utf8.bytes_eq_nil_iff {s : String} : bytes s = [] ↔ s = "" := by
  constructor
  · intro h
    have hs := decode?_bytes s
    rw [h] at hs
    have hempty := decode?_bytes ""
    rw [bytes_empty, hs] at hempty
    exact Option.some.inj hempty
  · rintro rfl
    exact bytes_empty

end Text

lemma PageToken.lastName?_after {name : String} (h : name ≠ "") :
    (after name).lastName? = some name := by
  have htext : (after name).text.isEmpty = false := by
    rw [after, Bool.eq_false_iff]
    intro he
    apply h
    rw [← Text.Utf8.bytes_eq_nil_iff, ← Text.Hex.encode_eq_nil_iff]
    simpa using he
  have hbytes : Text.Hex.decode (after name).text.toList = some (Text.Utf8.bytes name) := by
    rw [after, String.toList_ofList, Text.Hex.decode_encode]
  rw [lastName?, htext, hbytes]
  exact Text.Utf8.decode?_bytes name

lemma PageToken.lastName_after {name : String} (h : name ≠ "") :
    (after name).lastName = .ok name := by
  rw [lastName, lastName?_after h]

lemma PageToken.parse_after {name : String} (h : name ≠ "") :
    parse (after name).text = .ok (after name) := by
  have hname : (PageToken.mk (after name).text).lastName = .ok name := lastName_after h
  rw [parse, hname]

end DeviceFleet
