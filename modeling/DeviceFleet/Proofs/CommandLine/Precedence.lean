import DeviceFleet.CommandLine.Given
import DeviceFleet.Proofs.CommandLine.Spelling
import DeviceFleet.Proofs.Settings.LastWrite
import Mathlib.Data.List.Nodup

/-! Where a setting comes from: its flag, else the settings file, else the defaults of the role. The
order of the flags and the way each is written are of no consequence. -/

namespace DeviceFleet

open CommandLine

namespace Field

def flag : Field → Flag
  | .port => .port
  | .dataDir => .dataDir
  | .logLevel => .logLevel
  | .logFile => .logFile
  | .name => .name
  | .controlPlane => .controlPlane
  | .tags => .tags
  | .tenant => .tenant
  | .shutdownTimeoutSecs => .shutdownTimeoutSecs
  | .heartbeatIntervalSecs => .heartbeatIntervalSecs
  | .metricsAddress => .metricsAddress

def secondsOfText? (v : String) : Option UInt64 :=
  (Text.Decimal.readCount v.toList).toOption.map UInt64.ofNat

/-- What a text on the command line says for a field; only numbers of seconds can be misspelled. -/
def ofText? : (f : Field) → String → Option f.Value
  | .port, v | .dataDir, v | .logLevel, v | .tenant, v => some v
  | .logFile, v | .name, v | .controlPlane, v | .metricsAddress, v => some (some v)
  | .tags, v => some (Tags.read v)
  | .shutdownTimeoutSecs, v | .heartbeatIntervalSecs, v => secondsOfText? v

/-- What the file gives for a field, else the default of the role. -/
def fallback (role : Role) (file? : Option FileSettings) (f : Field) : f.Value :=
  (file?.bind (·.value? f)).getD ((Draft.new role).value f)

def ofDevice : List Field := [.name, .controlPlane, .tags, .tenant, .heartbeatIntervalSecs]

lemma flag_injective : Function.Injective flag := by
  intro f g h
  cases f <;> cases g <;> first | rfl | cases h

lemma flag_ne_config (f : Field) : f.flag ≠ .config := by
  cases f <;> nofun

lemma not_isKnownTo_central {f : Field} (h : f ∈ ofDevice) : f.flag.isKnownTo .central = false := by
  revert f
  decide

end Field

namespace CommandLine

variable {role : Role} {f k : Flag} {v : String} {a : Argument} {items others : List Item}

section Values

lemma readPath_eq_ok {path : String} (h : readPath v = .ok path) : path = v := by
  rw [readPath] at h
  split at h
  · cases h
  · exact (Except.ok.inj h).symm

lemma readSeconds_eq_ok {n : UInt64} (h : readSeconds v = .ok n) :
    Field.secondsOfText? v = some n := by
  rw [readSeconds] at h
  rw [Field.secondsOfText?]
  split at h
  · next m hm =>
    rw [hm, ← Except.ok.inj h]
    rfl
  · cases h

lemma eq_ok_of_bind {ε α β : Type} {x : Except ε α} {g : α → β} {b : β}
    (h : (x >>= fun y => .ok (g y)) = .ok b) : ∃ y, x = .ok y ∧ g y = b := by
  cases x with
  | error e => cases h
  | ok y => exact ⟨y, rfl, Except.ok.inj h⟩

/-- A flag stands for the settings file, or for one write of its field. -/
lemma Flag.read_eq_ok (h : k.read v = .ok a) : (k = .config ∧ a = .file v) ∨
    ∃ w, a = .setting w ∧ w.field.flag = k ∧ w.field.ofText? v = some w.value := by
  cases k with
  | config =>
    obtain ⟨path, hpath, rfl⟩ := eq_ok_of_bind h
    exact .inl ⟨rfl, by rw [readPath_eq_ok hpath]⟩
  | dataDir | logFile =>
    obtain ⟨path, hpath, rfl⟩ := eq_ok_of_bind h
    obtain rfl := readPath_eq_ok hpath
    exact .inr ⟨_, rfl, rfl, rfl⟩
  | shutdownTimeoutSecs | heartbeatIntervalSecs =>
    obtain ⟨n, hn, rfl⟩ := eq_ok_of_bind h
    exact .inr ⟨_, rfl, rfl, readSeconds_eq_ok hn⟩
  | port | logLevel | metricsAddress | name | controlPlane | tags | tenant =>
    obtain rfl := Except.ok.inj h
    exact .inr ⟨_, rfl, rfl, rfl⟩

end Values

section Lookups

lemma lookup_eq_some_iff_mem {β : Type} {l : List (Flag × β)} {b : β}
    (h : (l.map Prod.fst).Nodup) : l.lookup f = some b ↔ (f, b) ∈ l := by
  induction l with
  | nil => simp
  | cons p rest ih =>
    obtain ⟨k, c⟩ := p
    obtain ⟨hfresh, hrest⟩ := List.nodup_cons.mp h
    rw [List.lookup_cons]
    by_cases hk : f = k
    · subst hk
      have hnot : (f, b) ∉ rest := fun hmem => hfresh (List.mem_map.mpr ⟨(f, b), hmem, rfl⟩)
      simp [hnot, eq_comm]
    · simp [beq_eq_false_iff_ne.mpr hk, hk, ih hrest]

lemma lookup_of_perm (hp : items.Perm others) (h : (items.map Prod.fst).Nodup) (f : Flag) :
    others.lookup f = items.lookup f := by
  have hothers : (others.map Prod.fst).Nodup := (hp.map Prod.fst).nodup_iff.mp h
  apply Option.ext
  intro v
  rw [lookup_eq_some_iff_mem h, lookup_eq_some_iff_mem hothers, hp.mem_iff]

lemma filterMap_eq_toList {α β : Type} {g : α → Option β} {l : List α} {a : α} (hnodup : l.Nodup)
    (ha : a ∈ l) (h : ∀ b ≠ a, g b = none) : l.filterMap g = (g a).toList := by
  obtain ⟨before, after, rfl⟩ := List.append_of_mem ha
  have hfresh : a ∉ before ++ after := (List.nodup_cons.mp (List.nodup_middle.mp hnodup)).1
  have hnone {l' : List α} (hl' : a ∉ l') : l'.filterMap g = [] :=
    List.filterMap_eq_nil_iff.mpr fun b hb => h b fun hab => hl' (hab ▸ hb)
  rw [List.mem_append, not_or] at hfresh
  rw [List.filterMap_append, List.filterMap_cons, hnone hfresh.1, hnone hfresh.2]
  cases g a <;> rfl

end Lookups

def Item.argument? (i : Item) : Option Argument := (i.1.read i.2).toOption

structure Accepted (items : List Item) : Prop where
  once : (items.map Prod.fst).Nodup
  readable : ∀ i ∈ items, ∃ a, i.1.read i.2 = .ok a

def taken (items : List Item) : Given := items.filterMap fun i => (Item.argument? i).map (i.1, ·)

lemma Accepted.perm (h : Accepted items) (hp : items.Perm others) : Accepted others :=
  ⟨(hp.map Prod.fst).nodup_iff.mp h.once, fun i hi => h.readable i (hp.mem_iff.mpr hi)⟩

lemma Item.argument?_of_read (h : k.read v = .ok a) : argument? (k, v) = some a := by
  simp [argument?, h, Except.toOption]

lemma taken_cons (h : k.read v = .ok a) (items : List Item) :
    taken ((k, v) :: items) = (k, a) :: taken items := by
  simp [taken, Item.argument?_of_read h]

lemma lookup_taken (h : Accepted items) (f : Flag) :
    (taken items).lookup f = (items.lookup f).bind fun v => Item.argument? (f, v) := by
  induction items with
  | nil => rfl
  | cons i rest ih =>
    obtain ⟨k, v⟩ := i
    obtain ⟨a, ha⟩ := h.readable (k, v) List.mem_cons_self
    have hrest : Accepted rest :=
      ⟨(List.nodup_cons.mp h.once).2, fun i hi => h.readable i (List.mem_cons_of_mem _ hi)⟩
    rw [taken_cons ha, List.lookup_cons, List.lookup_cons]
    cases hk : f == k with
    | true =>
      obtain rfl := beq_iff_eq.mp hk
      exact (Item.argument?_of_read ha).symm
    | false => exact ih hrest

lemma lookup_taken_of_some (h : Accepted items) (hv : items.lookup k = some v) :
    ∃ a, (taken items).lookup k = some a ∧ k.read v = .ok a := by
  obtain ⟨a, ha⟩ := h.readable (k, v) ((lookup_eq_some_iff_mem h.once).mp hv)
  refine ⟨a, ?_, ha⟩
  rw [lookup_taken h, hv]
  exact Item.argument?_of_read ha

namespace State

variable {s : State} {given : Given}

lemma takeAll_eq_ok (h : s.takeAll items = .ok given) :
    (∀ i ∈ items, s.given.lookup i.1 = none) ∧ Accepted items ∧ given = s.given ++ taken items := by
  induction items generalizing s with
  | nil =>
    obtain rfl := Except.ok.inj h
    exact ⟨nofun, ⟨List.nodup_nil, nofun⟩, (List.append_nil _).symm⟩
  | cons i rest ih =>
    obtain ⟨k, v⟩ := i
    rw [takeAll_cons] at h
    cases htake : s.take k v with
    | error stop =>
      rw [htake] at h
      cases h
    | ok t =>
      rw [htake] at h
      obtain ⟨hfree, a, ha, rfl⟩ := take_eq_ok htake
      obtain ⟨hothers, hrest, hgiven⟩ := ih h
      have hapart : ∀ i ∈ rest, s.given.lookup i.1 = none ∧ i.1 ≠ k := by
        intro i hi
        have hnone := hothers i hi
        rw [List.lookup_append, Option.or_eq_none_iff] at hnone
        exact ⟨hnone.1, fun hk => by simp [hk] at hnone⟩
      refine ⟨?_, ⟨List.nodup_cons.mpr ⟨?_, hrest.once⟩, ?_⟩, ?_⟩
      · exact List.forall_mem_cons.mpr ⟨by simpa using hfree, fun i hi => (hapart i hi).1⟩
      · rw [List.mem_map]
        rintro ⟨i, hi, hk⟩
        exact (hapart i hi).2 hk
      · exact List.forall_mem_cons.mpr ⟨⟨a, ha⟩, hrest.readable⟩
      · rw [hgiven, taken_cons ha, List.append_assoc]
        rfl

lemma takeAll_of_accepted (hfree : ∀ i ∈ items, s.given.lookup i.1 = none)
    (h : Accepted items) : s.takeAll items = .ok (s.given ++ taken items) := by
  induction items generalizing s with
  | nil => exact congrArg Except.ok (List.append_nil _).symm
  | cons i rest ih =>
    obtain ⟨k, v⟩ := i
    obtain ⟨hnone, hothers⟩ := List.forall_mem_cons.mp hfree
    obtain ⟨⟨a, ha⟩, hreadable⟩ := List.forall_mem_cons.mp h.readable
    obtain ⟨hk, hrest⟩ := List.nodup_cons.mp h.once
    have htake : s.take k v = .ok { s with given := s.given ++ [(k, a)] } := by
      simp only [take, hnone, ha]
      rfl
    have hfree' : ∀ i ∈ rest, (s.given ++ [(k, a)]).lookup i.1 = none := by
      intro i hi
      have hne : i.1 ≠ k := fun heq => hk (heq ▸ List.mem_map.mpr ⟨i, hi, rfl⟩)
      rw [List.lookup_append, hothers i hi, Option.none_or, List.lookup_cons,
        beq_eq_false_iff_ne.mpr hne]
      rfl
    rw [takeAll_cons, htake, taken_cons ha]
    change takeAll rest { s with given := s.given ++ [(k, a)] } = _
    rw [ih hfree' ⟨hrest, hreadable⟩, List.append_assoc]
    rfl

end State

lemma parse_eq_ok_iff {words : List String} {given : Given} (h : Line role items words) :
    parse role words = .ok given ↔ Accepted items ∧ given = taken items := by
  rw [parse_of_line h]
  constructor
  · exact fun hgiven => (State.takeAll_eq_ok hgiven).2
  · rintro ⟨haccepted, rfl⟩
    exact State.takeAll_of_accepted (fun _ _ => rfl) haccepted

lemma Line.isKnownTo {words : List String} (h : Line role items words) :
    ∀ i ∈ items, i.1.isKnownTo role = true := by
  induction h with
  | nil | dashes => nofun
  | cons hf _ _ ih => exact List.forall_mem_cons.mpr ⟨hf, ih⟩

lemma Line.lookup_eq_none {words : List String} (h : Line role items words)
    (hk : k.isKnownTo role = false) : items.lookup k = none := by
  rw [List.lookup_eq_none_iff]
  intro i hi
  rw [bne_iff_ne]
  rintro rfl
  exact Bool.false_ne_true (hk.symm.trans (h.isKnownTo i hi))

def fileOf (load : String → Except LoadError FileSettings) (items : List Item) :
    Except LoadError (Option FileSettings) :=
  match items.lookup .config with
  | none => .ok none
  | some path => (load path).map some

def start (role : Role) : Option FileSettings → Draft
  | none => Draft.new role
  | some file => (Draft.new role).applyFile file

lemma role_start (role : Role) (file? : Option FileSettings) : (start role file?).role = role := by
  cases file? with
  | none => rfl
  | some file => exact Draft.role_writeAll _ _

lemma value_start (role : Role) (file? : Option FileSettings) (f : Field) :
    (start role file?).value f = f.fallback role file? := by
  cases file? with
  | none => rfl
  | some file =>
    change ((Draft.new role).writeAll file.writes).value f = _
    rw [Draft.value_writeAll, file.valuesFor_writes, Field.fallback, Option.bind_some]
    cases file.value? f <;> rfl

namespace Given

lemma file?_taken (h : Accepted items) : file? (taken items) = items.lookup .config := by
  rw [file?]
  cases hv : items.lookup .config with
  | none => rw [lookup_taken h, hv]; rfl
  | some path =>
    obtain ⟨a, hlookup, ha⟩ := lookup_taken_of_some h hv
    obtain ⟨-, rfl⟩ | ⟨w, -, hw, -⟩ := Flag.read_eq_ok ha
    · rw [hlookup]
    · exact absurd hw w.field.flag_ne_config

/-- A flag writes its own field and no other; the one that names the file writes none. -/
lemma valueFor?_setting? (h : Accepted items) (f : Field) (k : Flag) :
    (setting? (taken items) k).bind (Setting.valueFor? f) =
      if k = f.flag then (items.lookup k).bind f.ofText? else none := by
  rw [setting?]
  cases hv : items.lookup k with
  | none =>
    rw [lookup_taken h, hv]
    exact (ite_self _).symm
  | some v =>
    obtain ⟨a, hlookup, ha⟩ := lookup_taken_of_some h hv
    rw [hlookup]
    obtain ⟨rfl, rfl⟩ | ⟨w, rfl, hfield, hvalue⟩ := Flag.read_eq_ok ha
    · exact (if_neg f.flag_ne_config.symm).symm
    · change Setting.valueFor? f w = _
      by_cases hk : k = f.flag
      · obtain rfl := Field.flag_injective (hfield.trans hk)
        rw [if_pos hk, Setting.valueFor?_self]
        exact hvalue.symm
      · rw [if_neg hk, Setting.valueFor?_of_ne]
        rintro rfl
        exact hk hfield.symm

lemma valuesFor_writes (h : Accepted items) (f : Field) :
    Setting.valuesFor f (writes (taken items)) =
      ((items.lookup f.flag).bind f.ofText?).toList := by
  -- Of all flags one alone writes this field, so where it stands among them is of no account.
  have hall : f.flag ∈ Flag.all ∧ Flag.all.Nodup := ⟨by cases f <;> decide, by decide⟩
  rw [Setting.valuesFor, writes, List.filterMap_filterMap,
    filterMap_eq_toList hall.2 hall.1 (fun k hk => (valueFor?_setting? h f k).trans (if_neg hk)),
    valueFor?_setting? h, if_pos rfl]

lemma exists_ofText? {f : Field} (h : Accepted items) (hv : items.lookup f.flag = some v) :
    ∃ x, f.ofText? v = some x := by
  obtain ⟨a, -, ha⟩ := lookup_taken_of_some h hv
  obtain ⟨hconfig, -⟩ | ⟨w, -, hfield, hvalue⟩ := Flag.read_eq_ok ha
  · exact absurd hconfig f.flag_ne_config
  · obtain rfl := Field.flag_injective hfield
    exact ⟨_, hvalue⟩

variable {load : String → Except LoadError FileSettings} {file? : Option FileSettings}

lemma draft_taken (h : Accepted items) : draft load role (taken items) =
    (fileOf load items).map fun file? => (start role file?).writeAll (writes (taken items)) := by
  rw [draft, base, file?_taken h, fileOf]
  cases items.lookup .config with
  | none => rfl
  | some path =>
    dsimp only
    cases load path <;> rfl

lemma exists_draft (h : Accepted items) (hfile : fileOf load items = .ok file?) :
    ∃ d, draft load role (taken items) = .ok d ∧ d.role = role ∧ ∀ f : Field,
      some (d.value f) = match items.lookup f.flag with
        | some text => f.ofText? text
        | none => some (f.fallback role file?) := by
  refine ⟨_, by rw [draft_taken h, hfile]; rfl, ?_, fun f => ?_⟩
  · rw [Draft.role_writeAll, role_start]
  · rw [Draft.value_writeAll, valuesFor_writes h, value_start]
    cases hv : items.lookup f.flag with
    | none => rfl
    | some text =>
      obtain ⟨x, hx⟩ := exists_ofText? h hv
      simp [hx]

lemma draft_congr {g g' : Given} (h : ∀ k, g'.lookup k = g.lookup k) :
    draft load role g' = draft load role g := by
  have hsetting : g'.setting? = g.setting? := funext fun k => by rw [setting?, setting?, h]
  simp only [draft, base, Given.file?, writes, h, hsetting]

/-- On every accepted command line each field has the value of its flag if that was given, else the
file's, else the default; the tags of a flag replace those of the file, and the pairs of its list that
are none are all that is rejected. The control plane has no flag for what only a device has. A file
that cannot be loaded is the end of it, whatever the other flags say. The same flags in another
order, or written another way, are accepted too and come to the same. -/
theorem field_comes_from_flag_file_or_default (load : String → Except LoadError FileSettings)
    {role : Role} {words : List String} {given : Given} (h : parse role words = .ok given) :
    (∃ items, Line role items words) ∧ ∀ items, Line role items words →
      (items.map Prod.fst).Nodup ∧
      (match fileOf load items with
        | .error e => given.draft load role = .error e
        | .ok file? => ∃ d, given.draft load role = .ok d ∧ d.role = role ∧
          (∀ f : Field, some (d.value f) = match items.lookup f.flag with
            | some text => f.ofText? text
            | none => some (f.fallback role file?)) ∧
          (role = .central → ∀ f ∈ Field.ofDevice, d.value f = f.fallback role file?)) ∧
      ∀ (others : List Item) (words' : List String), items.Perm others →
        Line role others words' →
        ∃ given', parse role words' = .ok given' ∧
          given'.draft load role = given.draft load role ∧
          ∀ cwd, (given'.draft load role).map (Draft.build cwd) =
            (given.draft load role).map (Draft.build cwd) := by
  refine ⟨exists_line_of_parse h, fun items hline => ?_⟩
  obtain ⟨haccepted, rfl⟩ := (parse_eq_ok_iff hline).mp h
  refine ⟨haccepted.once, ?_, fun others words' hperm hothers => ?_⟩
  · cases hfile : fileOf load items with
    | error e =>
      dsimp only
      rw [draft_taken haccepted, hfile]
      rfl
    | ok file? =>
      obtain ⟨d, hdraft, hrole, hvalue⟩ := exists_draft haccepted hfile
      refine ⟨d, hdraft, hrole, hvalue, ?_⟩
      rintro rfl f hf
      have hnone : items.lookup f.flag = none :=
        hline.lookup_eq_none (Field.not_isKnownTo_central hf)
      have hfallback := hvalue f
      rw [hnone] at hfallback
      exact Option.some.inj hfallback
  · have haccepted' : Accepted others := haccepted.perm hperm
    have hlookup (k : Flag) : (taken others).lookup k = (taken items).lookup k := by
      rw [lookup_taken haccepted, lookup_taken haccepted',
        lookup_of_perm hperm haccepted.once]
    have hdraft : draft load role (taken others) = draft load role (taken items) :=
      draft_congr hlookup
    exact ⟨taken others, (parse_eq_ok_iff hothers).mpr ⟨haccepted', rfl⟩, hdraft, fun cwd => by
      rw [hdraft]⟩

theorem field_comes_from_flag_file_or_default_dev :
    let load (path : String) : Except LoadError FileSettings :=
      if path = "f.toml" then
        .ok { FileSettings.empty with
          port := some "7000", tags := some (Table.insert ∅ "b" "2"), tenant := some "acme" }
      else .error (.unreadable path .missing)
    let line := ["--tags=a=1,bad", "-p8080", "-n", "dev-1", "--config", "f.toml"]
    let other := ["-c=f.toml", "--name=dev-1", "--port", "8080", "--tags", "a=1,bad", "--"]
    ∃ given given' d,
      parse .device line = .ok given ∧ parse .device other = .ok given' ∧
      given.draft load .device = .ok d ∧ given'.draft load .device = .ok d ∧
      d.value .port = "8080" ∧ d.value .tenant = "acme" ∧
      d.value .tags = Tags.read "a=1,bad" ∧ d.value .heartbeatIntervalSecs = 30 := by
  intro load line other
  let items : List Item :=
    [(.tags, "a=1,bad"), (.port, "8080"), (.name, "dev-1"), (.config, "f.toml")]
  let others : List Item :=
    [(.config, "f.toml"), (.name, "dev-1"), (.port, "8080"), (.tags, "a=1,bad")]
  have hline : Line .device items line :=
    .cons rfl (.joined .long) (.cons rfl (.joined (.close rfl rfl (by decide)))
      (.cons rfl (.apart (.short rfl) (standsApart_of_head? (by decide)))
        (.cons rfl (.apart .long (standsApart_of_head? (by decide))) .nil)))
  have hother : Line .device others other :=
    .cons rfl (.joined (.short rfl)) (.cons rfl (.joined .long)
      (.cons rfl (.apart .long (standsApart_of_head? (by decide)))
        (.cons rfl (.apart .long (standsApart_of_head? (by decide))) .dashes)))
  obtain ⟨-, hall⟩ := field_comes_from_flag_file_or_default load
    (show parse .device line = .ok (taken items) by decide +kernel)
  obtain ⟨-, ⟨d, hdraft, -, hvalue, -⟩, hrewritten⟩ := hall items hline
  obtain ⟨given', hgiven', hsame, -⟩ := hrewritten others other (by decide) hother
  exact ⟨taken items, given', d, by decide +kernel, hgiven', hdraft, hsame.trans hdraft,
    Option.some.inj (hvalue .port), Option.some.inj (hvalue .tenant),
    Option.some.inj (hvalue .tags), Option.some.inj (hvalue .heartbeatIntervalSecs)⟩

end Given

end CommandLine
end DeviceFleet
