import DeviceFleet.Proofs.Settings.LastWrite
import DeviceFleet.Proofs.Toml.Tables
import DeviceFleet.Table.Lemmas

/-! One entry of a settings file: its key names a field, and its value gives what the field will
hold. An entry for which this fails has one flaw, and the flaw has one place. -/

namespace DeviceFleet

open Text

variable {v : Toml.Value} {e : Toml.Entry} {file : FileSettings} {f g : Field} {place : Nat}

/-- The tags that a value gives: those of a table of texts, and one for a date or time, which reads
as a table with one entry. -/
inductive Tags.GivenBy (tags : Tags) : Toml.Value → Prop
  | table {entries : List Toml.Entry} (texts : ∀ e ∈ entries, ∃ s, e.2 = .text s)
      (same : ∀ k s, tags.get? k = some s ↔ ∃ e ∈ entries, e.1.name = k ∧ e.2 = .text s) :
      GivenBy tags (.table entries)
  | moment {written : String}
      (same : ∀ k s, tags.get? k = some s ↔ k = Toml.momentKey ∧ s = written) :
      GivenBy tags (.moment written)

namespace Field

def key : Field → String
  | .port => "port"
  | .dataDir => "data_dir"
  | .logLevel => "log_level"
  | .logFile => "log_file"
  | .name => "name"
  | .controlPlane => "control_plane"
  | .tags => "tags"
  | .tenant => "tenant"
  | .shutdownTimeoutSecs => "shutdown_timeout_secs"
  | .heartbeatIntervalSecs => "heartbeat_interval_secs"
  | .metricsAddress => "metrics_address"

lemma key_injective : Function.Injective key := by
  intro f g h
  cases f <;> cases g <;> first | rfl | exact absurd h (by decide)

/-- What a value of its type gives for a field; a value of another type gives nothing. -/
def Gives : (f : Field) → Toml.Value → f.Value → Prop
  | .port, v, x => v = .text x ∨ ∃ n : Nat, v = .integer n ∧ x = Decimal.text n
  | .dataDir, v, x | .logLevel, v, x | .tenant, v, x => v = .text x
  | .logFile, v, x | .name, v, x | .controlPlane, v, x | .metricsAddress, v, x =>
    ∃ s, v = .text s ∧ x = some s
  | .tags, v, x => x.rejected = [] ∧ x.tags.GivenBy v
  | .shutdownTimeoutSecs, v, x | .heartbeatIntervalSecs, v, x => v = .integer x.toNat

def countMismatch : Toml.Value → Mismatch
  | .integer n => .value (.integer n) .count
  | v => .type v.shape .count

/-- How a value that gives nothing for a field fails to be one of its type. -/
def mismatch : Field → Toml.Value → Mismatch
  | .port, _ => .noVariant "PortValue"
  | .dataDir, v | .logFile, v => .type v.shape .path
  | .logLevel, v | .tenant, v | .name, v | .controlPlane, v | .metricsAddress, v =>
    .type v.shape .text
  | .tags, v => .type v.shape .map
  | .shutdownTimeoutSecs, v | .heartbeatIntervalSecs, v => countMismatch v

end Field

lemma Tags.GivenBy.unique {s t : Tags} (hs : s.GivenBy v) (ht : t.GivenBy v) : s = t := by
  apply Table.ext_get?
  intro k
  apply Option.ext
  intro a
  cases hs with
  | table _ hs =>
    cases ht with
    | table _ ht => exact (hs k a).trans (ht k a).symm
  | moment hs =>
    cases ht with
    | moment ht => exact (hs k a).trans (ht k a).symm

lemma Field.Gives.unique {x y : f.Value} (hx : f.Gives v x) (hy : f.Gives v y) : x = y := by
  cases f with
  | port =>
    rcases hx with rfl | ⟨n, rfl, rfl⟩ <;> rcases hy with hy | ⟨m, hy, rfl⟩ <;> cases hy <;> rfl
  | dataDir | logLevel | tenant => exact Toml.Value.text.inj (hx.symm.trans hy)
  | logFile | name | controlPlane | metricsAddress =>
    obtain ⟨s, rfl, rfl⟩ := hx
    obtain ⟨t, ht, rfl⟩ := hy
    rw [Toml.Value.text.inj ht]
  | tags =>
    obtain ⟨tags, rejected⟩ := x
    obtain ⟨others, rejected'⟩ := y
    obtain ⟨rfl, hx⟩ := hx
    obtain ⟨rfl, hy⟩ := hy
    exact congrArg (Tags.Reading.mk · []) (hx.unique hy)
  | shutdownTimeoutSecs | heartbeatIntervalSecs =>
    have h : (x.toNat : Int) = y.toNat := Toml.Value.integer.inj (hx.symm.trans hy)
    exact UInt64.toNat_inj.mp (Int.ofNat.inj h)

section First

variable {α : Type} {p : α → Prop} {a b : α} {l l' m m' : List α}

lemma forall_or_first_not (p : α → Prop) (l : List α) :
    (∀ a ∈ l, p a) ∨ ∃ before a after, l = before ++ a :: after ∧ (∀ b ∈ before, p b) ∧ ¬ p a := by
  induction l with
  | nil => exact .inl nofun
  | cons a r ih =>
    by_cases ha : p a
    · rcases ih with h | ⟨before, b, after, rfl, hbefore, hb⟩
      · exact .inl (List.forall_mem_cons.mpr ⟨ha, h⟩)
      · exact .inr ⟨a :: before, b, after, rfl, List.forall_mem_cons.mpr ⟨ha, hbefore⟩, hb⟩
    · exact .inr ⟨[], a, r, rfl, nofun, ha⟩

lemma first_not_unique (h : l ++ a :: m = l' ++ b :: m') (hl : ∀ x ∈ l, p x) (ha : ¬ p a)
    (hl' : ∀ x ∈ l', p x) (hb : ¬ p b) : a = b := by
  induction l generalizing l' with
  | nil =>
    cases l' with
    | nil => exact List.head_eq_of_cons_eq h
    | cons c r' =>
      obtain rfl := List.head_eq_of_cons_eq h
      exact absurd (hl' a List.mem_cons_self) ha
  | cons c r ih =>
    cases l' with
    | nil =>
      obtain rfl := List.head_eq_of_cons_eq h
      exact absurd (hl c List.mem_cons_self) hb
    | cons c' r' =>
      exact ih (List.tail_eq_of_cons_eq h) (List.forall_mem_cons.mp hl).2
        (List.forall_mem_cons.mp hl').2

end First

namespace FileSettings

def Fits (e : Toml.Entry) : Prop := ∃ f x, e.1.name = Field.key f ∧ f.Gives e.2 x

/-- The flaw of an entry: its key if it names no field, else its value; in a table of tags the first
that is no text. -/
inductive Reported : Toml.Entry → Flaw → Prop
  | key {e : Toml.Entry} (h : ∀ f : Field, e.1.name ≠ f.key) :
      Reported e ⟨e.1.keyAt, .unknownKey e.1.name keys⟩
  | value {e : Toml.Entry} (f : Field) (hname : e.1.name = f.key) (h : ∀ x, ¬ f.Gives e.2 x)
      (hno : f = .tags → ∀ entries, e.2 ≠ .table entries) :
      Reported e ⟨e.1.valueAt, f.mismatch e.2⟩
  | tag {label : Toml.Label} {before after : List Toml.Entry} {tag : Toml.Entry}
      (hname : label.name = Field.tags.key) (hbefore : ∀ b ∈ before, ∃ s, b.2 = .text s)
      (h : ∀ s, tag.2 ≠ .text s) :
      Reported (label, .table (before ++ tag :: after)) ⟨tag.1.valueAt, .type tag.2.shape .text⟩

lemma Reported.not_fits {flaw : Flaw} (h : Reported e flaw) : ¬ Fits e := by
  rintro ⟨f, x, hname, hgives⟩
  cases h with
  | key h => exact h f hname
  | value g hg h =>
    obtain rfl := Field.key_injective (hg.symm.trans hname)
    exact h x hgives
  | tag hg _ h =>
    obtain rfl := Field.key_injective (hg.symm.trans hname)
    obtain ⟨-, hgiven⟩ := hgives
    cases hgiven with
    | table texts _ =>
      obtain ⟨s, hs⟩ := texts _ (List.mem_append_right _ List.mem_cons_self)
      exact h s hs

lemma Reported.unique {flaw flaw' : Flaw} (h : Reported e flaw) (h' : Reported e flaw') :
    flaw = flaw' := by
  cases h with
  | key h =>
    cases h' with
    | key => rfl
    | value f hf => exact absurd hf (h f)
    | tag hf => exact absurd hf (h .tags)
  | value f hf h hno =>
    cases h' with
    | key h' => exact absurd hf (h' f)
    | value g hg =>
      obtain rfl := Field.key_injective (hf.symm.trans hg)
      rfl
    | tag hg =>
      obtain rfl := Field.key_injective (hf.symm.trans hg)
      exact absurd rfl (hno rfl _)
  | @tag label before after tag hf hbefore htag =>
    -- the other report may split the table at another place
    generalize hv : Toml.Value.table (before ++ tag :: after) = v at h'
    cases h' with
    | key h' => exact absurd hf (h' .tags)
    | value g hg _ hno =>
      obtain rfl := Field.key_injective (hg.symm.trans hf)
      exact absurd hv.symm (hno rfl _)
    | tag _ hbefore' htag' =>
      rw [← not_exists] at htag htag'
      rw [first_not_unique (Toml.Value.table.inj hv) hbefore htag hbefore' htag']

def put (file : FileSettings) : (f : Field) → f.Value → FileSettings
  | .port, x => { file with port := some x }
  | .dataDir, x => { file with dataDir := some x }
  | .logLevel, x => { file with logLevel := some x }
  | .logFile, x => { file with logFile := x }
  | .name, x => { file with name := x }
  | .controlPlane, x => { file with controlPlane := x }
  | .tags, x => { file with tags := some x.tags }
  | .tenant, x => { file with tenant := some x }
  | .shutdownTimeoutSecs, x => { file with shutdownTimeoutSecs := some x }
  | .heartbeatIntervalSecs, x => { file with heartbeatIntervalSecs := some x }
  | .metricsAddress, x => { file with metricsAddress := x }

lemma value?_put {x : f.Value} (h : f.Gives v x) : (file.put f x).value? f = some x := by
  cases f with
  | logFile | name | controlPlane | metricsAddress =>
    obtain ⟨s, -, rfl⟩ := h
    rfl
  | tags =>
    obtain ⟨tags, rejected⟩ := x
    obtain ⟨rfl, -⟩ := h
    rfl
  | _ => rfl

lemma value?_put_of_ne {x : f.Value} (h : f ≠ g) : (file.put f x).value? g = file.value? g := by
  cases f <;> cases g <;> first | rfl | exact absurd rfl h

lemma ext_value? {a b : FileSettings} (h : ∀ f, a.value? f = b.value? f) : a = b := by
  have hsome {x y : Option String} (h : x.map some = y.map some) : x = y :=
    (Option.map_inj_right fun _ _ => Option.some.inj).mp h
  have htags {x y : Option Tags} (h : x.map (Tags.Reading.mk · []) = y.map (Tags.Reading.mk · [])) :
      x = y := (Option.map_inj_right fun _ _ h => (Tags.Reading.mk.inj h).1).mp h
  obtain ⟨port, dataDir, logLevel, logFile, name, controlPlane, tags, tenant, timeout, interval,
    metricsAddress⟩ := a
  obtain ⟨port', dataDir', logLevel', logFile', name', controlPlane', tags', tenant', timeout',
    interval', metricsAddress'⟩ := b
  obtain rfl : port = port' := h .port
  obtain rfl : dataDir = dataDir' := h .dataDir
  obtain rfl : logLevel = logLevel' := h .logLevel
  obtain rfl : logFile = logFile' := hsome (h .logFile)
  obtain rfl : name = name' := hsome (h .name)
  obtain rfl : controlPlane = controlPlane' := hsome (h .controlPlane)
  obtain rfl : tags = tags' := htags (h .tags)
  obtain rfl : tenant = tenant' := h .tenant
  obtain rfl : timeout = timeout' := h .shutdownTimeoutSecs
  obtain rfl : interval = interval' := h .heartbeatIntervalSecs
  obtain rfl : metricsAddress = metricsAddress' := hsome (h .metricsAddress)
  rfl

section Readers

lemma readText_cases (wanted : Wanted) (v : Toml.Value) :
    (∃ s, v = .text s ∧ readText wanted v = .ok s) ∨
      (∀ s, v ≠ .text s) ∧ readText wanted v = .error (.type v.shape wanted) := by
  cases v with
  | text s => exact .inl ⟨s, rfl, rfl⟩
  | _ => exact .inr ⟨nofun, rfl⟩

lemma readPortValue_cases (v : Toml.Value) :
    (∃ x, Field.port.Gives v x ∧ readPortValue v = .ok x) ∨
      (∀ x, ¬ Field.port.Gives v x) ∧ readPortValue v = .error (.noVariant "PortValue") := by
  have hno (h : ∀ s, v ≠ .text s) (h' : ∀ n : Nat, v ≠ .integer n) (x : String) :
      ¬ Field.port.Gives v x := by
    rintro (hx | ⟨n, hn, -⟩)
    · exact h x hx
    · exact h' n hn
  cases v with
  | text s => exact .inl ⟨s, .inl rfl, rfl⟩
  | integer n =>
    cases n with
    | ofNat n => exact .inl ⟨_, .inr ⟨n, rfl, rfl⟩, rfl⟩
    | negSucc n => exact .inr ⟨hno nofun nofun, rfl⟩
  | _ => exact .inr ⟨hno nofun nofun, rfl⟩

/-- A sound integer that is not negative is a count of 64 bits. -/
lemma readSeconds_cases (hv : v.Sound) :
    (∃ x : UInt64, v = .integer x.toNat ∧ readSeconds v = .ok x) ∨
      (∀ x : UInt64, v ≠ .integer x.toNat) ∧ readSeconds v = .error (Field.countMismatch v) := by
  cases v with
  | integer n =>
    cases n with
    | ofNat n =>
      cases hv with
      | integer hn =>
        have hlt : n < 2 ^ 64 := by
          simp only [Toml.withinLong, Int.ofNat_eq_natCast, Bool.and_eq_true,
            decide_eq_true_eq] at hn
          omega
        have hsame : (UInt64.ofNat n).toNat = n := UInt64.toNat_ofNat_of_lt' hlt
        exact .inl ⟨.ofNat n, by rw [hsame]; rfl, rfl⟩
    | negSucc n => exact .inr ⟨nofun, rfl⟩
  | _ => exact .inr ⟨nofun, rfl⟩

lemma readTagEntries_of_texts {entries : List Toml.Entry} (h : ∀ e ∈ entries, ∃ s, e.2 = .text s)
    (once : (entries.map (·.1.name)).Nodup) (tags : Tags) :
    ∃ all, readTagEntries entries tags = .ok all ∧ ∀ k s, all.get? k = some s ↔
      (∃ e ∈ entries, e.1.name = k ∧ e.2 = .text s) ∨
        k ∉ entries.map (·.1.name) ∧ tags.get? k = some s := by
  induction entries generalizing tags with
  | nil => exact ⟨tags, rfl, by simp⟩
  | cons e r ih =>
    obtain ⟨label, v⟩ := e
    obtain ⟨s, rfl⟩ : ∃ s, v = .text s := h _ List.mem_cons_self
    obtain ⟨hfresh, hrest⟩ := List.nodup_cons.mp once
    obtain ⟨all, hread, hall⟩ :=
      ih (fun e he => h e (List.mem_cons_of_mem _ he)) hrest (tags.insert label.name s)
    refine ⟨all, hread, fun k t => ?_⟩
    -- no later entry has the first one's name, so the insert is not undone
    have hnone : ¬ ∃ e ∈ r, e.1.name = label.name ∧ e.2 = .text t := fun ⟨e, he, hname, _⟩ =>
      hfresh (List.mem_map.mpr ⟨e, he, hname⟩)
    by_cases hk : k = label.name
    · subst hk
      simp [hall, hfresh, hnone]
    · simp [hall, hk, Ne.symm hk]

lemma readTagEntries_of_wrong {before after : List Toml.Entry} {tag : Toml.Entry}
    (hbefore : ∀ b ∈ before, ∃ s, b.2 = .text s) (h : ∀ s, tag.2 ≠ .text s) (tags : Tags) :
    readTagEntries (before ++ tag :: after) tags =
      .error ⟨tag.1.valueAt, .type tag.2.shape .text⟩ := by
  induction before generalizing tags with
  | nil =>
    rcases readText_cases .text tag.2 with ⟨s, hs, -⟩ | ⟨-, hread⟩
    · exact absurd hs (h s)
    · rw [List.nil_append, readTagEntries, hread]
      rfl
  | cons b r ih =>
    obtain ⟨label, v⟩ := b
    obtain ⟨s, rfl⟩ : ∃ s, v = .text s := hbefore _ List.mem_cons_self
    exact ih (fun b hb => hbefore b (List.mem_cons_of_mem _ hb)) _

def readField (place : Nat) (v : Toml.Value) : (f : Field) → Except Flaw f.Value
  | .port => placed place (readPortValue v)
  | .dataDir => placed place (readText .path v)
  | .logFile => (placed place (readText .path v)).map some
  | .logLevel | .tenant => placed place (readText .text v)
  | .name | .controlPlane | .metricsAddress => (placed place (readText .text v)).map some
  | .tags => (readTags place v).map (Tags.Reading.mk · [])
  | .shutdownTimeoutSecs | .heartbeatIntervalSecs => placed place (readSeconds v)

lemma bind_ok_eq_map {α : Type} (x : Except Flaw α) (g : α → FileSettings) :
    (x >>= fun a => .ok (g a)) = x.map g := by
  cases x <;> rfl

lemma map_map_eq {α β : Type} (x : Except Flaw α) (g : α → β) (k : β → FileSettings) :
    (x.map g).map k = x.map (k ∘ g) := by
  cases x <;> rfl

lemma readEntry_of_key (h : e.1.name = f.key) (file : FileSettings) :
    readEntry e file = (readField e.1.valueAt e.2 f).map (file.put f) := by
  unfold readEntry
  rw [h]
  cases f with
  | logFile | name | controlPlane | metricsAddress | tags =>
    rw [readField, map_map_eq]
    exact bind_ok_eq_map _ _
  | _ => exact bind_ok_eq_map _ _

lemma readEntry_of_unknown (h : ∀ f : Field, e.1.name ≠ f.key) (file : FileSettings) :
    readEntry e file = .error ⟨e.1.keyAt, .unknownKey e.1.name keys⟩ := by
  unfold readEntry
  split
  · next hname => exact absurd hname (h .port)
  · next hname => exact absurd hname (h .dataDir)
  · next hname => exact absurd hname (h .logLevel)
  · next hname => exact absurd hname (h .logFile)
  · next hname => exact absurd hname (h .name)
  · next hname => exact absurd hname (h .controlPlane)
  · next hname => exact absurd hname (h .tags)
  · next hname => exact absurd hname (h .tenant)
  · next hname => exact absurd hname (h .shutdownTimeoutSecs)
  · next hname => exact absurd hname (h .heartbeatIntervalSecs)
  · next hname => exact absurd hname (h .metricsAddress)
  · rfl

lemma readTags_cases (place : Nat) (hv : v.Sound) :
    (∃ tags, Tags.GivenBy tags v ∧ readTags place v = .ok tags) ∨
    (∃ before tag after, v = .table (before ++ tag :: after) ∧
      (∀ b ∈ before, ∃ s, b.2 = .text s) ∧ (∀ s, tag.2 ≠ .text s) ∧
      readTags place v = .error ⟨tag.1.valueAt, .type tag.2.shape .text⟩) ∨
    (∀ entries, v ≠ .table entries) ∧ (∀ tags, ¬ Tags.GivenBy tags v) ∧
      readTags place v = .error ⟨place, Field.tags.mismatch v⟩ := by
  cases v with
  | table entries =>
    obtain ⟨once, -⟩ := Toml.wellFormed_iff.mp hv
    rcases forall_or_first_not (fun e : Toml.Entry => ∃ s, e.2 = .text s) entries with
      htexts | ⟨before, tag, after, rfl, hbefore, htag⟩
    · obtain ⟨tags, hread, hall⟩ := readTagEntries_of_texts htexts once ∅
      exact .inl ⟨tags, .table htexts (by simpa using hall), hread⟩
    · rw [not_exists] at htag
      exact .inr (.inl ⟨before, tag, after, rfl, hbefore, htag,
        readTagEntries_of_wrong hbefore htag ∅⟩)
  | moment written =>
    refine .inl ⟨_, .moment fun k s => ?_, rfl⟩
    rw [Table.get?_insert, Table.get?_empty]
    split
    · next hk => simp [hk, eq_comm]
    · next hk => simp [hk]
  | _ => exact .inr (.inr ⟨nofun, nofun, rfl⟩)

lemma readField_cases (he : e.2.Sound) (h : e.1.name = f.key) :
    (∃ x, f.Gives e.2 x ∧ readField e.1.valueAt e.2 f = .ok x) ∨
      ∃ flaw, Reported e flaw ∧ readField e.1.valueAt e.2 f = .error flaw := by
  cases f with
  | port =>
    rcases readPortValue_cases e.2 with ⟨x, hx, hread⟩ | ⟨hno, hread⟩
    · exact .inl ⟨x, hx, by rw [readField, hread]; rfl⟩
    · exact .inr ⟨_, .value .port h hno nofun, by rw [readField, hread]; rfl⟩
  | dataDir =>
    rcases readText_cases .path e.2 with ⟨s, hs, hread⟩ | ⟨hno, hread⟩
    · exact .inl ⟨s, hs, by rw [readField, hread]; rfl⟩
    · exact .inr ⟨_, .value .dataDir h hno nofun, by rw [readField, hread]; rfl⟩
  | logLevel | tenant =>
    rcases readText_cases .text e.2 with ⟨s, hs, hread⟩ | ⟨hno, hread⟩
    · exact .inl ⟨s, hs, by rw [readField, hread]; rfl⟩
    · exact .inr ⟨_, .value _ h hno nofun, by rw [readField, hread]; rfl⟩
  | logFile =>
    rcases readText_cases .path e.2 with ⟨s, hs, hread⟩ | ⟨hno, hread⟩
    · exact .inl ⟨some s, ⟨s, hs, rfl⟩, by rw [readField, hread]; rfl⟩
    · refine .inr ⟨_, .value .logFile h ?_ nofun, by rw [readField, hread]; rfl⟩
      exact fun x ⟨s, hs, _⟩ => hno s hs
  | name | controlPlane | metricsAddress =>
    rcases readText_cases .text e.2 with ⟨s, hs, hread⟩ | ⟨hno, hread⟩
    · exact .inl ⟨some s, ⟨s, hs, rfl⟩, by rw [readField, hread]; rfl⟩
    · refine .inr ⟨_, .value _ h ?_ nofun, by rw [readField, hread]; rfl⟩
      exact fun x ⟨s, hs, _⟩ => hno s hs
  | shutdownTimeoutSecs | heartbeatIntervalSecs =>
    rcases readSeconds_cases he with ⟨x, hx, hread⟩ | ⟨hno, hread⟩
    · exact .inl ⟨x, hx, by rw [readField, hread]; rfl⟩
    · exact .inr ⟨_, .value _ h hno nofun, by rw [readField, hread]; rfl⟩
  | tags =>
    obtain ⟨label, v⟩ := e
    rcases readTags_cases label.valueAt he with ⟨tags, hgiven, hread⟩ |
      ⟨before, tag, after, rfl, hbefore, htag, hread⟩ | ⟨hno, hnone, hread⟩
    · exact .inl ⟨⟨tags, []⟩, ⟨rfl, hgiven⟩, by rw [readField, hread]; rfl⟩
    · exact .inr ⟨_, .tag h hbefore htag, by rw [readField, hread]; rfl⟩
    · refine .inr ⟨_, .value .tags h ?_ fun _ => hno, by rw [readField, hread]; rfl⟩
      exact fun x ⟨_, hgiven⟩ => hnone x.tags hgiven

/-- An entry gives one field its value, or is reported. -/
lemma readEntry_cases (he : e.2.Sound) (file : FileSettings) :
    (∃ f x, e.1.name = Field.key f ∧ f.Gives e.2 x ∧ readEntry e file = .ok (file.put f x)) ∨
      ∃ flaw, Reported e flaw ∧ readEntry e file = .error flaw := by
  by_cases hkey : ∃ f : Field, e.1.name = f.key
  · obtain ⟨f, hf⟩ := hkey
    rw [readEntry_of_key hf]
    rcases readField_cases he hf with ⟨x, hx, hread⟩ | ⟨flaw, hflaw, hread⟩
    · exact .inl ⟨f, x, hf, hx, by rw [hread]; rfl⟩
    · exact .inr ⟨flaw, hflaw, by rw [hread]; rfl⟩
  · rw [not_exists] at hkey
    exact .inr ⟨_, .key hkey, readEntry_of_unknown hkey file⟩

end Readers

end FileSettings

end DeviceFleet
