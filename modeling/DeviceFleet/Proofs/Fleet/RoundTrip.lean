import DeviceFleet.Fleet.Codec
import DeviceFleet.Proofs.Json.RoundTrip
import Mathlib.Data.List.Forall2

/-!
Records and pages are decoded from what they are encoded as, with their stamps cut to whole
milliseconds of 64 bits.
-/

namespace DeviceFleet

namespace Timestamp

/-- What is left of a moment once it is encoded. -/
def inMillis (t : Timestamp) : Timestamp := .ofMillis t.toMillis

/-- The moments that are whole milliseconds of 64 bits from the start of 1970. -/
def IsWhole (t : Timestamp) : Prop := ∃ n : Nat, n < 2 ^ 64 ∧ t.nanos = n * 1000000

lemma toMillis_lt (t : Timestamp) : t.toMillis < 2 ^ 64 := Nat.mod_lt _ (by decide)

lemma toMillis_ofMillis {n : Nat} (h : n < 2 ^ 64) : (ofMillis n).toMillis = n := by
  have hnanos : (ofMillis n).nanos.toNat = n * 1000000 := by
    simp only [ofMillis]
    omega
  rw [toMillis, hnanos, Nat.mul_div_cancel n (by decide)]
  exact Nat.mod_eq_of_lt h

@[simp] lemma toMillis_inMillis (t : Timestamp) : t.inMillis.toMillis = t.toMillis :=
  toMillis_ofMillis t.toMillis_lt

lemma inMillis_eq_self_iff (t : Timestamp) : t.inMillis = t ↔ t.IsWhole := by
  constructor
  · intro h
    exact ⟨t.toMillis, t.toMillis_lt, by rw [← congrArg nanos h]; rfl⟩
  · rintro ⟨n, hn, hnanos⟩
    have ht : t = ofMillis n := congrArg mk hnanos
    rw [ht, inMillis, toMillis_ofMillis hn]

end Timestamp

section Fields

variable {α β : Type} {add : α → β → Decoded α} {fill : α → β → α} {l l' : List β}

lemma foldlM_eq_foldl (hadd : ∀ a, ∀ e ∈ l, add a e = .ok (fill a e)) (a : α) :
    l.foldlM add a = .ok (l.foldl fill a) := by
  induction l generalizing a with
  | nil => rfl
  | cons e r ih =>
    rw [List.foldlM_cons, hadd a e List.mem_cons_self]
    exact ih (fun a f hf => hadd a f (List.mem_cons_of_mem e hf)) (fill a e)

/-- Fields that are read one by one, each to an effect that does not depend on the others, are
read to the same in whatever order they stand. -/
lemma foldlM_of_perm (hp : List.Perm l' l) (hadd : ∀ a, ∀ e ∈ l, add a e = .ok (fill a e))
    (hcomm : ∀ e f a, fill (fill a e) f = fill (fill a f) e) (a : α) :
    l'.foldlM add a = .ok (l.foldl fill a) := by
  rw [foldlM_eq_foldl (fun a e he => hadd a e (hp.subset he)) a]
  exact congrArg Except.ok (hp.foldl_eq' (fun e _ f _ a => hcomm e f a) a)

end Fields

namespace Decode

lemma text_ofOption (o : Option String) : optionalText (.ofOption .text o) = .ok o := by
  cases o <;> rfl

lemma tagFields_map (entries : List (String × String)) (tags : Tags) :
    tagFields (entries.map fun e => (e.1, .text e.2)) tags =
      .ok (entries.foldl (fun t e => t.insert e.1 e.2) tags) := by
  induction entries generalizing tags with
  | nil => rfl
  | cons e r ih => exact ih (tags.insert e.1 e.2)

lemma tags_ofTable (t : Tags) : tags (.ofTable .text t) = .ok t := by
  rw [Json.ofTable, tags, tagFields_map]
  exact congrArg Except.ok (Table.ofList_entries t)

lemma millis_integer (n : Nat) : millis (.integer n) = .ok (.ofMillis n) := rfl

end Decode

namespace Record

def inMillis (r : Record) : Record :=
  { r with createdAt := r.createdAt.inMillis, modifiedAt := r.modifiedAt.inMillis }

def fields (r : Record) : List (String × Json) := [
  ("control_plane", .ofOption .text r.controlPlane),
  ("created_at", .integer r.createdAt.toMillis),
  ("modified_at", .integer r.modifiedAt.toMillis),
  ("name", .text r.name),
  ("tags", .ofTable .text r.tags),
  ("tenant", .text r.tenant)]

/-- The objects with the fields of a record, in whatever order they stand. -/
def Encodes (r : Record) (j : Json) : Prop := ∃ fields, j = .object fields ∧ fields.Perm r.fields

lemma encodes_toJson (r : Record) : r.Encodes r.toJson := ⟨r.fields, rfl, .refl _⟩

def fill (r : Record) (f : Fields) (e : String × Json) : Fields where
  tenant := if e.1 = "tenant" then some r.tenant else f.tenant
  name := if e.1 = "name" then some r.name else f.name
  tags := if e.1 = "tags" then some r.tags else f.tags
  controlPlane := if e.1 = "control_plane" then some r.controlPlane else f.controlPlane
  createdAt := if e.1 = "created_at" then some r.createdAt.inMillis else f.createdAt
  modifiedAt := if e.1 = "modified_at" then some r.modifiedAt.inMillis else f.modifiedAt

lemma fill_comm (r : Record) (e e' : String × Json) (f : Fields) :
    r.fill (r.fill f e) e' = r.fill (r.fill f e') e := by
  -- Whichever entry comes first, a field is filled with the one value that the record has for it.
  simp only [fill, Fields.mk.injEq]
  refine ⟨?_, ?_, ?_, ?_, ?_, ?_⟩ <;> split_ifs <;> rfl

lemma add_of_mem_fields (r : Record) (f : Fields) {e : String × Json} (he : e ∈ r.fields) :
    f.add e = .ok (r.fill f e) := by
  simp only [fields, List.mem_cons, List.not_mem_nil, or_false] at he
  rcases he with rfl | rfl | rfl | rfl | rfl | rfl <;>
    simp [Fields.add, fill, Decode.text, Decode.text_ofOption, Decode.tags_ofTable,
      Decode.millis_integer, Timestamp.inMillis] <;> rfl

lemma ofJson_of_encodes {r : Record} {j : Json} (h : r.Encodes j) :
    ofJson j = .ok r.inMillis := by
  obtain ⟨fields, rfl, hp⟩ := h
  have hread := foldlM_of_perm hp (fun f e => r.add_of_mem_fields f)
    r.fill_comm ⟨none, none, none, none, none, none⟩
  rw [ofJson, ofObject, hread]
  rfl

@[simp] lemma toJson_inMillis (r : Record) : r.inMillis.toJson = r.toJson := by
  simp [toJson, inMillis]

lemma inMillis_eq_self_iff (r : Record) :
    r.inMillis = r ↔ r.createdAt.IsWhole ∧ r.modifiedAt.IsWhole := by
  rw [← Timestamp.inMillis_eq_self_iff, ← Timestamp.inMillis_eq_self_iff]
  cases r
  simp [inMillis]

lemma writable_toJson (r : Record) : r.toJson.Writable := by
  have htags : (Json.ofTable .text r.tags).Writable := by
    refine .object (List.pairwise_map.mpr r.tags.ascending) ?_
    simp only [List.mem_map, forall_exists_index, and_imp, forall_apply_eq_imp_iff₂]
    exact fun e _ => .text e.2
  have hstamp (t : Timestamp) : (Json.integer t.toMillis).Writable := by
    have h := t.toMillis_lt
    exact .integer (by omega) (by omega)
  have hnames : ["control_plane", "created_at", "modified_at", "name", "tags", "tenant"].Pairwise
      (· < ·) := by decide
  refine .object (List.pairwise_map.mp hnames) ?_
  simp only [List.forall_mem_cons, List.not_mem_nil, false_imp_iff, implies_true, and_true]
  refine ⟨?_, hstamp _, hstamp _, .text _, htags, .text _⟩
  cases r.controlPlane with
  | none => exact .null
  | some a => exact .text a

end Record

namespace Page

def inMillis (p : Page) : Page := { p with records := p.records.map Record.inMillis }

/-- The fields a page is encoded as, with its records encoded as these items. -/
def fields (p : Page) (items : List Json) : List (String × Json) := [
  ("next_page_token", .ofOption (fun t => .text t.text) p.next),
  ("records", .list items)]

/-- The objects with the fields of a page and of its records, in whatever order the fields stand. -/
def Encodes (p : Page) (j : Json) : Prop :=
  ∃ items fields, List.Forall₂ Record.Encodes p.records items ∧ j = .object fields ∧
    fields.Perm (p.fields items)

lemma encodes_toJson (p : Page) : p.Encodes p.toJson := by
  refine ⟨p.records.map Record.toJson, _, ?_, rfl, .refl _⟩
  rw [List.forall₂_map_right_iff, List.forall₂_same]
  exact fun r _ => r.encodes_toJson

lemma token_ofOption (next : Option PageToken) :
    token (.ofOption (fun t => .text t.text) next) = .ok next := by
  cases next <;> rfl

lemma each_of_encodes {records : List Record} {items : List Json}
    (h : List.Forall₂ Record.Encodes records items) :
    Decode.each Record.ofJson items = .ok (records.map Record.inMillis) := by
  induction h with
  | nil => rfl
  | cons hr _ ih =>
    rw [Decode.each, Record.ofJson_of_encodes hr, ih]
    rfl

def fill (p : Page) (f : Fields) (e : String × Json) : Fields where
  records := if e.1 = "records" then some (p.records.map Record.inMillis) else f.records
  next := if e.1 = "next_page_token" then p.next else f.next

lemma fill_comm (p : Page) (e e' : String × Json) (f : Fields) :
    p.fill (p.fill f e) e' = p.fill (p.fill f e') e := by
  simp only [fill, Fields.mk.injEq]
  refine ⟨?_, ?_⟩ <;> split_ifs <;> rfl

lemma add_of_mem_fields {p : Page} {items : List Json}
    (h : List.Forall₂ Record.Encodes p.records items) (f : Fields) {e : String × Json}
    (he : e ∈ p.fields items) : f.add e = .ok (p.fill f e) := by
  simp only [fields, List.mem_cons, List.not_mem_nil, or_false] at he
  rcases he with rfl | rfl <;>
    simp [Fields.add, fill, token_ofOption, Decode.sequence, each_of_encodes h] <;> rfl

lemma ofJson_of_encodes {p : Page} {j : Json} (h : p.Encodes j) : ofJson j = .ok p.inMillis := by
  obtain ⟨items, fields, hitems, rfl, hp⟩ := h
  have hread := foldlM_of_perm hp (fun f e => add_of_mem_fields hitems f) p.fill_comm ⟨none, none⟩
  rw [ofJson, ofObject, hread]
  rfl

lemma toJson_inMillis (p : Page) : p.inMillis.toJson = p.toJson := by
  simp [toJson, inMillis]

lemma inMillis_eq_self_iff (p : Page) :
    p.inMillis = p ↔ ∀ r ∈ p.records, r.createdAt.IsWhole ∧ r.modifiedAt.IsWhole := by
  have hmap : p.records.map Record.inMillis = p.records ↔ ∀ r ∈ p.records, r.inMillis = r := by
    simpa using List.map_inj_left (l := p.records) (g := id)
  simp only [← Record.inMillis_eq_self_iff, ← hmap]
  cases p
  simp [inMillis]

lemma writable_toJson (p : Page) : p.toJson.Writable := by
  have hnames : ["next_page_token", "records"].Pairwise (· < ·) := by decide
  refine .object (List.pairwise_map.mp hnames) ?_
  simp only [List.forall_mem_cons, List.not_mem_nil, false_imp_iff, implies_true, and_true]
  constructor
  · cases p.next with
    | none => exact .null
    | some t => exact .text t.text
  · refine .list ?_
    simp only [List.mem_map, forall_exists_index, and_imp, forall_apply_eq_imp_iff₂]
    exact fun r _ => r.writable_toJson

end Page

/-- Decoding an encoding gives what was encoded, but for stamps that are no whole milliseconds of
64 bits, and every such millisecond is a moment a clock of 64-bit seconds can hold. -/
theorem encodings_decode :
    (∀ r : Record, r.Encodes r.toJson ∧ Json.parse r.toJson.render = some r.toJson ∧
      (∀ j, r.Encodes j → Record.ofJson j = .ok r.inMillis) ∧
      r.inMillis.toJson = r.toJson ∧
      (r.inMillis = r ↔ r.createdAt.IsWhole ∧ r.modifiedAt.IsWhole)) ∧
    (∀ p : Page, p.Encodes p.toJson ∧ Json.parse p.toJson.render = some p.toJson ∧
      (∀ j, p.Encodes j → Page.ofJson j = .ok p.inMillis) ∧
      p.inMillis.toJson = p.toJson ∧
      (p.inMillis = p ↔ ∀ r ∈ p.records, r.createdAt.IsWhole ∧ r.modifiedAt.IsWhole)) ∧
    (∀ t : Timestamp, (t.toMillis : Int) = max t.nanos 0 / 1000000 % 2 ^ 64) ∧
    ∀ n : Nat, n < 2 ^ 64 → ∃ t, Decode.millis (.integer n) = .ok t ∧
      0 ≤ t.nanos ∧ t.nanos / 1000000000 < 2 ^ 63 ∧ t.toMillis = n := by
  refine ⟨fun r => ?_, fun p => ?_, fun t => ?_, fun n hn => ?_⟩
  · exact ⟨r.encodes_toJson, r.writable_toJson.parse_render, fun j => Record.ofJson_of_encodes,
      r.toJson_inMillis, r.inMillis_eq_self_iff⟩
  · exact ⟨p.encodes_toJson, p.writable_toJson.parse_render, fun j => Page.ofJson_of_encodes,
      p.toJson_inMillis, p.inMillis_eq_self_iff⟩
  · simp only [Timestamp.toMillis, UInt64.size]
    omega
  · refine ⟨.ofMillis n, Decode.millis_integer n, ?_, ?_, Timestamp.toMillis_ofMillis hn⟩ <;>
      simp only [Timestamp.ofMillis] <;> omega

end DeviceFleet
