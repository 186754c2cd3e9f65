import DeviceFleet.Proofs.Text.Hexadecimal

/-! Page tokens are the written forms of names, one for each name that is not empty. Whether a text is
one can be told by its digits, and reading it by pairs of bytes finds a second byte in every pair. -/

namespace DeviceFleet

open Text

namespace PageToken

variable {t : PageToken} {name other : String}

/-- How the reading of a text by pairs of bytes goes wrong: it is no token, or a pair has no second
byte where one is looked up. -/
inductive Misreading
  | malformed
  | outOfBounds
  deriving DecidableEq

def pairs : List UInt8 → List (List UInt8)
  | [] => []
  | [b] => [[b]]
  | h :: l :: r => [h, l] :: pairs r

def readPair (pair : List UInt8) : Except Misreading UInt8 :=
  match pair[0]?, pair[1]? with
  | some h, some l =>
    match Hex.digit? (byteChar h), Hex.digit? (byteChar l) with
    | some h, some l => .ok (UInt8.ofNat (16 * h + l))
    | _, _ => .error .malformed
  | _, _ => .error .outOfBounds

/-- Looks at the number of bytes before any pair is looked up. -/
def readName (t : PageToken) : Except Misreading String :=
  let bytes := Utf8.bytes t.text
  if bytes = [] ∨ bytes.length % 2 ≠ 0 then .error .malformed
  else
    match (pairs bytes).mapM readPair with
    | .error e => .error e
    | .ok name => (Utf8.decode? name).elim (.error .malformed) .ok

lemma mapM_readPair {bytes : List UInt8} (heven : bytes.length % 2 = 0) :
    (pairs bytes).mapM readPair =
      (Hex.decode (bytes.map byteChar)).elim (.error .malformed) .ok := by
  fun_induction pairs bytes with
  | case1 => rfl
  | case2 => simp at heven
  | case3 h l r ih =>
    simp only [List.length_cons] at heven
    rw [List.mapM_cons, ih (by omega), List.map_cons, List.map_cons, Hex.decode]
    simp only [readPair, List.getElem?_cons_zero, List.getElem?_cons_succ]
    cases Hex.digit? (byteChar h) with
    | none => rfl
    | some high =>
      cases Hex.digit? (byteChar l) with
      | none => rfl
      | some low => cases Hex.decode (r.map byteChar) <;> rfl

lemma lastName?_eq_some_iff : t.lastName? = some name ↔ name ≠ "" ∧ after name = t := by
  constructor
  · intro h
    rw [lastName?] at h
    split at h
    · cases h
    · next hne =>
      obtain ⟨bytes, hbytes, hname⟩ := Option.bind_eq_some_iff.mp h
      rw [Hex.decode_eq_some_iff] at hbytes
      rw [Utf8.decode?_eq_some_iff] at hname
      have htoken : after name = t := by
        rw [after, hname, hbytes, String.ofList_toList]
      refine ⟨?_, htoken⟩
      rintro rfl
      rw [← htoken, after, Utf8.bytes_empty] at hne
      exact hne rfl
  · rintro ⟨hname, rfl⟩
    exact lastName?_after hname

lemma after_inj (h : after name = after other) : name = other := by
  have hchars := congrArg (fun t => t.text.toList) h
  simp only [after, String.toList_ofList] at hchars
  have hbytes := Hex.decode_encode (Utf8.bytes name)
  rw [hchars, Hex.decode_encode] at hbytes
  exact Utf8.eq_of_bytes_eq (Option.some.inj hbytes).symm

lemma even_of_decode {bytes : List UInt8} (h : Hex.decode t.text.toList = some bytes) :
    (Utf8.bytes t.text).length % 2 = 0 := by
  rw [← Hex.decode_bytes, Hex.decode_eq_some_iff] at h
  have hlength := congrArg List.length h
  rw [Hex.length_encode, List.length_map] at hlength
  omega

/-- Reading by pairs of bytes comes to the same. -/
lemma readName_eq (t : PageToken) :
    t.readName = t.lastName?.elim (.error .malformed) .ok := by
  by_cases hempty : t.text = ""
  · simp [readName, lastName?, hempty, Utf8.bytes_empty]
  · have hne : Utf8.bytes t.text ≠ [] := fun h => hempty (Utf8.bytes_eq_nil_iff.mp h)
    have hlast : t.lastName? = (Hex.decode t.text.toList).bind Utf8.decode? :=
      if_neg (by simpa using hempty)
    by_cases heven : (Utf8.bytes t.text).length % 2 = 0
    · rw [readName, if_neg (by simp [hne, heven]), mapM_readPair heven, Hex.decode_bytes, hlast]
      cases Hex.decode t.text.toList <;> rfl
    · have hnone : Hex.decode t.text.toList = none := by
        cases hdecode : Hex.decode t.text.toList with
        | none => rfl
        | some bytes => exact absurd (even_of_decode hdecode) heven
      rw [readName, if_pos (Or.inr heven), hlast, hnone]
      rfl

lemma parse_of_lastName? (h : t.lastName? = some name) :
    parse t.text = .ok t ∧ t.lastName = .ok name := by
  have hlast : t.lastName = .ok name := by rw [lastName, h]
  exact ⟨by rw [parse, hlast], hlast⟩

lemma parse_of_lastName?_eq_none {s : String} (h : (mk s).lastName? = none) :
    parse s = .error (.invalidPageToken s) := by
  rw [parse, lastName, h]

lemma isSome_lastName?_iff (s : String) :
    (mk s).lastName?.isSome ↔ s ≠ "" ∧ (Utf8.bytes s).length % 2 = 0 ∧
      (∀ c ∈ s.toList, Hex.IsDigit c) ∧
      ∀ bytes, Hex.decode s.toList = some bytes → ∃ name, Utf8.bytes name = bytes := by
  constructor
  · intro h
    obtain ⟨name, hname⟩ := Option.isSome_iff_exists.mp h
    obtain ⟨hne, htoken⟩ := lastName?_eq_some_iff.mp hname
    have htext : (after name).text = s := congrArg text htoken
    have hdigits : Hex.encode (Utf8.bytes name) = s.toList := by
      rw [← htext, after, String.toList_ofList]
    have hdecode := Hex.decode_eq_some_iff.mpr hdigits
    refine ⟨?_, even_of_decode (t := ⟨s⟩) hdecode, fun c hc => ?_, fun bytes hbytes => ⟨name, ?_⟩⟩
    · rintro rfl
      cases hname
    · exact Hex.isDigit_of_mem_encode (hdigits ▸ hc)
    · exact Option.some.inj (hdecode.symm.trans hbytes)
  · rintro ⟨hne, heven, hdigits, hutf8⟩
    have hascii := Hex.isAscii_of_isDigit hdigits
    have hbytes : Utf8.bytes s = s.toList.map asciiByte := by
      rw [← Utf8.bytes_of_ascii hascii, String.ofList_toList]
    rw [hbytes, List.length_map] at heven
    obtain ⟨bytes, hdecode⟩ := Hex.exists_decode hdigits heven
    obtain ⟨name, rfl⟩ := hutf8 bytes hdecode
    have hname : name ≠ "" := by
      rintro rfl
      rw [Utf8.bytes_empty, Hex.decode_eq_some_iff] at hdecode
      exact hne (String.toList_eq_nil_iff.mp hdecode.symm)
    have htoken : after name = ⟨s⟩ := by
      rw [after, Hex.decode_eq_some_iff.mp hdecode, String.ofList_toList]
    rw [lastName?_eq_some_iff.mpr ⟨hname, htoken⟩]
    rfl

/-- A text is accepted if it is the token of a name that is not empty, and then it is that of no other
name, and the name is read from it. Every other text is refused, and the error carries it. What is
accepted are pairs of lowercase digits that spell the bytes of a text; and no pair is looked up
beyond its end. -/
theorem parse_iff_written (s : String) :
    (∀ name, name ≠ "" → (after name).text = s →
      parse s = .ok (after name) ∧ (after name).lastName = .ok name) ∧
    (∀ t, parse s = .ok t → t.text = s ∧ ∃ name, name ≠ "" ∧ t.lastName = .ok name ∧
      (after name).text = s ∧ ∀ other, (after other).text = s → other = name) ∧
    (∀ e, parse s = .error e →
      e = .invalidPageToken s ∧ ∀ name, name ≠ "" → (after name).text ≠ s) ∧
    ((∃ t, parse s = .ok t) ↔ s ≠ "" ∧ (Utf8.bytes s).length % 2 = 0 ∧
      (∀ c ∈ s.toList, ('0' ≤ c ∧ c ≤ '9') ∨ ('a' ≤ c ∧ c ≤ 'f')) ∧
      ∀ bytes, Hex.decode s.toList = some bytes → ∃ name, Utf8.bytes name = bytes) ∧
    (mk s).readName = (mk s).lastName.mapError fun _ => .malformed := by
  have hwritten (name : String) (hname : name ≠ "") (htext : (after name).text = s) :
      parse s = .ok (after name) ∧ (after name).lastName = .ok name := by
    subst htext
    exact ⟨parse_after hname, lastName_after hname⟩
  have hgrammar := isSome_lastName?_iff s
  refine ⟨hwritten, ?_⟩
  rw [readName_eq]
  cases hlast : (mk s).lastName? with
  | some name =>
    obtain ⟨hname, htoken⟩ := lastName?_eq_some_iff.mp hlast
    obtain ⟨hparse, hread⟩ := parse_of_lastName? hlast
    rw [hlast] at hgrammar
    change parse s = _ at hparse
    rw [hparse, hread]
    refine ⟨fun t ht => ?_, fun e he => ?_, (iff_of_true ⟨_, rfl⟩ rfl).trans hgrammar, rfl⟩
    · obtain rfl : mk s = t := Except.ok.inj ht
      refine ⟨rfl, name, hname, hread, congrArg text htoken, fun other hother => ?_⟩
      exact after_inj (htoken ▸ congrArg mk hother)
    · cases he
  | none =>
    rw [hlast] at hgrammar
    rw [parse_of_lastName?_eq_none hlast, lastName, hlast]
    refine ⟨fun t ht => ?_, fun e he => ?_, (iff_of_false ?_ Bool.false_ne_true).trans hgrammar, rfl⟩
    · cases ht
    · refine ⟨(Except.error.inj he).symm, fun name hname htext => ?_⟩
      have haccepted := (hwritten name hname htext).1
      rw [parse_of_lastName?_eq_none hlast] at haccepted
      cases haccepted
    · rintro ⟨t, ht⟩
      cases ht

/-- An overlong form, half of a surrogate pair, and a sequence that breaks off. -/
example : ∀ s ∈ ["c080", "eda080", "e282"], (mk s).lastName? = none := by
  decide +kernel

end PageToken

end DeviceFleet
