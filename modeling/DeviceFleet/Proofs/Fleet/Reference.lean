import DeviceFleet.Fleet.Request
import DeviceFleet.Proofs.Fleet.Tokens
import Mathlib.Data.Finmap
import Mathlib.Data.Finset.Sort
import Mathlib.Data.String.Basic

/-! A reference store that is one finite map from keys to records. It knows the rules of the calls
from their description only: it sorts the names of a tenant, cuts its own pages from them, and
writes and reads tokens by a table of the sixteen digits. -/

namespace DeviceFleet

abbrev Ledger := Finmap fun _ : Key => Record

namespace Ledger

def refusal? (k : Key) : Option StoreError :=
  if Text.isBlank k.tenant then some (.invalidKey "tenant must not be empty")
  else if Text.isBlank k.name then some (.invalidKey "device name must not be empty")
  else none

def create (now : Timestamp) (r : Record) (m : Ledger) : Except StoreError Record × Ledger :=
  match refusal? r.key, m.lookup r.key with
  | some e, _ => (.error e, m)
  | none, some _ => (.error (.alreadyExists r.key), m)
  | none, none =>
    let stamped := { r with createdAt := now, modifiedAt := now }
    (.ok stamped, m.insert r.key stamped)

def get (k : Key) (m : Ledger) : Except StoreError Record :=
  match refusal? k, m.lookup k with
  | some e, _ => .error e
  | none, none => .error (.notFound k)
  | none, some r => .ok r

def update (now : Timestamp) (r : Record) (m : Ledger) : Except StoreError Record × Ledger :=
  match refusal? r.key, m.lookup r.key with
  | some e, _ => (.error e, m)
  | none, none => (.error (.notFound r.key), m)
  | none, some old =>
    let revised := { old with
      tags := r.tags
      controlPlane := r.controlPlane
      modifiedAt := Timestamp.latest now old.modifiedAt }
    (.ok revised, m.insert r.key revised)

def delete (k : Key) (m : Ledger) : Except StoreError Unit × Ledger :=
  match refusal? k, m.lookup k with
  | some e, _ => (.error e, m)
  | none, none => (.error (.notFound k), m)
  | none, some _ => (.ok (), m.erase k)

/-- The digits, each at the place of its value. -/
def digits : List Char :=
  ['0', '1', '2', '3', '4', '5', '6', '7', '8', '9', 'a', 'b', 'c', 'd', 'e', 'f']

def spelling (b : UInt8) : List Char :=
  [digits.getD (b.toNat / 16) '0', digits.getD (b.toNat % 16) '0']

def tokenOf (name : String) : PageToken := ⟨String.ofList (name.toUTF8.toList.flatMap spelling)⟩

/-- The bytes that digits spell, two digits to a byte. -/
def spelled : List Char → List UInt8
  | high :: low :: rest =>
    UInt8.ofNat (16 * digits.idxOf high + digits.idxOf low) :: spelled rest
  | _ => []

/-- A token is a text of digits, not empty and of an even length, that spell the bytes of a name. -/
def nameOf? (t : PageToken) : Option String :=
  let written := t.text.toList
  if written ≠ [] ∧ written.length % 2 = 0 ∧ written.all (· ∈ digits) then
    String.fromUTF8? ⟨(spelled written).toArray⟩
  else none

/-- A page is asked for with its size, where zero stands for a hundred; it has at most a thousand
records. -/
def pageLimit (size : Nat) : Nat :=
  if size = 0 then 100 else if size ≤ 1000 then size else 1000

def names (tenant : String) (m : Ledger) : Finset String :=
  (m.keys.filter fun k => k.tenant = tenant).image Key.name

/-- The names of a tenant beyond the given one, in ascending order. -/
def namesAfter (tenant : String) (after : Option String) (m : Ledger) : List String :=
  ((m.names tenant).filter fun n => ∀ a ∈ after, a < n).sort

/-- The records of the first names, and a token for the last of these if one more name is there. -/
def page (limit : Nat) (tenant : String) (after : Option String) (m : Ledger) : Page :=
  let names := m.namesAfter tenant after
  { records := (names.take limit).filterMap fun n => m.lookup ⟨tenant, n⟩
    next := if limit < names.length then names[limit - 1]?.map tokenOf else none }

def list (tenant : String) (token : Option PageToken) (size : Nat) (m : Ledger) :
    Except StoreError Page :=
  if Text.isBlank tenant then .error (.invalidKey "tenant must not be empty")
  else
    match token with
    | none => .ok (m.page (pageLimit size) tenant none)
    | some t =>
      match nameOf? t with
      | none => .error (.invalidPageToken t.text)
      | some name => .ok (m.page (pageLimit size) tenant (some name))

def perform (now : Timestamp) (m : Ledger) : (q : Request) → q.Result × Ledger
  | .create r => m.create now r
  | .get k => (m.get k, m)
  | .update r => m.update now r
  | .delete k => m.delete k
  | .list tenant token size => (m.list tenant token size, m)

lemma lookup_insert_eq_ite (m : Ledger) (k j : Key) (r : Record) :
    (m.insert k r).lookup j = if j = k then some r else m.lookup j := by
  split
  · next h =>
    subst h
    exact Finmap.lookup_insert m
  · next h => exact Finmap.lookup_insert_of_ne m h

lemma lookup_erase_eq_ite (m : Ledger) (k j : Key) :
    (m.erase k).lookup j = if j = k then none else m.lookup j := by
  split
  · next h =>
    subst h
    exact Finmap.lookup_erase _ m
  · next h => exact Finmap.lookup_erase_ne h

section Tokens

open Text

lemma getD_digits : ∀ n < 16, digits.getD n '0' = Hex.digitChar n := by decide

lemma idxOf_digitChar : ∀ n < 16, digits.idxOf (Hex.digitChar n) = n := by decide

lemma mem_digits_iff {c : Char} : c ∈ digits ↔ Hex.IsDigit c := by
  have hall : digits = (List.range 16).map Hex.digitChar := by decide
  rw [hall, List.mem_map, Hex.isDigit_iff]
  simp only [List.mem_range]

lemma flatMap_spelling (bytes : List UInt8) : bytes.flatMap spelling = Hex.encode bytes := by
  induction bytes with
  | nil => rfl
  | cons b rest ih =>
    have hhigh : b.toNat / 16 < 16 := by
      have hbyte := b.toNat_lt
      omega
    have hlow : b.toNat % 16 < 16 := Nat.mod_lt _ (by decide)
    rw [List.flatMap_cons, spelling, getD_digits _ hhigh, getD_digits _ hlow, ih, Hex.encode]
    rfl

lemma tokenOf_eq (name : String) : tokenOf name = PageToken.after name := by
  rw [tokenOf, flatMap_spelling]
  rfl

lemma encode_spelled {cs : List Char} (hdigits : ∀ c ∈ cs, c ∈ digits)
    (heven : cs.length % 2 = 0) : Hex.encode (spelled cs) = cs := by
  fun_induction spelled cs with
  | case1 high low rest ih =>
    simp only [List.forall_mem_cons, mem_digits_iff] at hdigits
    obtain ⟨hhigh, hlow, hrest⟩ := hdigits
    obtain ⟨m, hm, rfl⟩ := Hex.isDigit_iff.mp hhigh
    obtain ⟨n, hn, rfl⟩ := Hex.isDigit_iff.mp hlow
    have hrest_even : rest.length % 2 = 0 := by
      simp only [List.length_cons] at heven
      omega
    rw [idxOf_digitChar m hm, idxOf_digitChar n hn, Hex.encode_cons_of_lt hm hn,
      ih (fun c hc => mem_digits_iff.mpr (hrest c hc)) hrest_even]
  | case2 cs hshort =>
    match cs with
    | [] => rfl
    | [c] => simp at heven
    | high :: low :: rest => exact absurd rfl (hshort high low rest)

lemma decode_eq_spelled (cs : List Char) :
    Hex.decode cs =
      if cs.length % 2 = 0 ∧ cs.all (· ∈ digits) then some (spelled cs) else none := by
  simp only [List.all_eq_true, decide_eq_true_eq]
  split
  · next h => exact Hex.decode_eq_some_iff.mpr (encode_spelled h.2 h.1)
  · next h =>
    refine Option.eq_none_iff_forall_ne_some.mpr fun bytes hbytes => h ?_
    rw [Hex.decode_eq_some_iff] at hbytes
    subst hbytes
    refine ⟨by rw [Hex.length_encode]; omega, fun c hc => ?_⟩
    exact mem_digits_iff.mpr (Hex.isDigit_of_mem_encode hc)

/-- Tokens are read by the table as they are read digit by digit. -/
lemma nameOf?_eq (t : PageToken) : nameOf? t = t.lastName? := by
  simp only [nameOf?, PageToken.lastName?, decode_eq_spelled, String.isEmpty_iff]
  by_cases hempty : t.text = ""
  · simp [hempty]
  · have hne : t.text.toList ≠ [] := fun h => hempty (String.toList_eq_nil_iff.mp h)
    simp only [hempty, hne, ne_eq, not_false_eq_true, true_and, if_false]
    split <;> rfl

end Tokens

lemma pageLimit_eq (size : Nat) : pageLimit size = effectivePageSize size := by
  rw [pageLimit, effectivePageSize, defaultPageSize, maxPageSize]
  split
  · rfl
  · split <;> omega

lemma pageLimit_pos (size : Nat) : 0 < pageLimit size := by
  rw [pageLimit]
  split
  · decide
  · split <;> omega

end Ledger

end DeviceFleet
