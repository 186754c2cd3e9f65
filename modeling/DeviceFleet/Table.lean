/-!
Finite maps from texts, kept as entries with strictly ascending keys, so that two tables with the
same entries are equal. Keys compare by code point, which is also the order of their UTF-8 bytes.
-/

namespace DeviceFleet

theorem lt_of_not_lt_of_ne {a b : String} (h : ¬ a < b) (hne : b ≠ a) : b < a := by
  rcases Decidable.em (b < a) with hb | hb
  · exact hb
  · exact absurd (String.le_antisymm (String.not_lt.mp h) (String.not_lt.mp hb)) hne

/-- Entries whose keys strictly ascend. -/
abbrev Ascending (entries : List (String × α)) : Prop :=
  entries.Pairwise fun a b => a.1 < b.1

structure Table (α : Type) where
  entries : List (String × α)
  ascending : Ascending entries
  deriving DecidableEq, Repr

namespace Table

def putEntry (k : String) (a : α) : List (String × α) → List (String × α)
  | [] => [(k, a)]
  | e :: r =>
    if k < e.1 then (k, a) :: e :: r
    else if e.1 = k then (k, a) :: r
    else e :: putEntry k a r

theorem mem_putEntry {k : String} {a : α} {entries : List (String × α)} {e : String × α}
    (h : e ∈ putEntry k a entries) : e = (k, a) ∨ e ∈ entries := by
  induction entries with
  | nil => simpa [putEntry] using h
  | cons f r ih =>
    simp only [putEntry] at h
    split at h
    · simpa using h
    · split at h
      · rcases List.mem_cons.mp h with h | h
        · exact Or.inl h
        · exact Or.inr (List.mem_cons_of_mem _ h)
      · rcases List.mem_cons.mp h with h | h
        · exact Or.inr (h ▸ List.mem_cons_self)
        · exact (ih h).imp id (List.mem_cons_of_mem _)

theorem putEntry_ascending (k : String) (a : α) {entries : List (String × α)}
    (h : Ascending entries) : Ascending (putEntry k a entries) := by
  induction entries with
  | nil => exact List.pairwise_singleton _ _
  | cons e r ih =>
    obtain ⟨hhead, htail⟩ := List.pairwise_cons.mp h
    simp only [putEntry]
    split
    · next hlt =>
      refine List.pairwise_cons.mpr ⟨fun f hf => ?_, h⟩
      rcases List.mem_cons.mp hf with rfl | hf
      · exact hlt
      · exact String.lt_trans hlt (hhead f hf)
    · split
      · next heq => exact List.pairwise_cons.mpr ⟨fun f hf => heq ▸ hhead f hf, htail⟩
      · next hlt hne =>
        refine List.pairwise_cons.mpr ⟨fun f hf => ?_, ih htail⟩
        rcases mem_putEntry hf with rfl | hf
        · exact lt_of_not_lt_of_ne hlt hne
        · exact hhead f hf

def empty : Table α := ⟨[], .nil⟩

instance : EmptyCollection (Table α) := ⟨empty⟩

instance : Inhabited (Table α) := ⟨empty⟩

def get? (t : Table α) (k : String) : Option α := t.entries.lookup k

def contains (t : Table α) (k : String) : Bool := (t.get? k).isSome

def insert (t : Table α) (k : String) (a : α) : Table α :=
  ⟨putEntry k a t.entries, putEntry_ascending k a t.ascending⟩

def erase (t : Table α) (k : String) : Table α :=
  ⟨t.entries.filter fun e => e.1 ≠ k, t.ascending.filter _⟩

/-- The entries with keys beyond the given one. -/
def after (t : Table α) (k : String) : Table α :=
  ⟨t.entries.filter fun e => k < e.1, t.ascending.filter _⟩

/-- Later pairs override earlier ones. -/
def ofList (pairs : List (String × α)) : Table α := pairs.foldl (fun t p => t.insert p.1 p.2) empty

def keys (t : Table α) : List String := t.entries.map (·.1)

def values (t : Table α) : List α := t.entries.map (·.2)

def size (t : Table α) : Nat := t.entries.length

def isEmpty (t : Table α) : Bool := t.entries.isEmpty

end Table

end DeviceFleet
