import DeviceFleet.Proofs.Settings.Entries
import DeviceFleet.Proofs.Toml.WellFormed
import DeviceFleet.Settings.Load

/-! A settings file as a whole. It is accepted if each entry gives a field its value, and then
changes these fields and no others; only what is in the file counts, not where. -/

namespace DeviceFleet

open Text

/-- A value at other places, a table also with its entries in another order. -/
inductive Toml.Value.Moved : Toml.Value → Toml.Value → Prop
  | same (v : Toml.Value) : Moved v v
  | table {xs ys : List Toml.Entry}
      (h : (xs.map fun e => (e.1.name, e.2)).Perm (ys.map fun e => (e.1.name, e.2))) :
      Moved (.table xs) (.table ys)

/-- An entry at another place. -/
def Toml.Entry.Moved (e e' : Toml.Entry) : Prop := e.1.name = e'.1.name ∧ e.2.Moved e'.2

/-- The entries of a document in another order and at other places. -/
def Toml.Rearranged (d d' : Toml.Document) : Prop :=
  ∃ sorted, d.Perm sorted ∧ List.Forall₂ Toml.Entry.Moved sorted d'

namespace FileSettings

variable {d d' : Toml.Document}

section Runs

lemma readEntries_cases (once : (d.map (·.1.name)).Nodup) (hsound : ∀ e ∈ d, e.2.Sound)
    (file : FileSettings) :
    (∃ file', readEntries d file = .ok file' ∧
      (∀ e ∈ d, ∃ f x, e.1.name = Field.key f ∧ f.Gives e.2 x ∧ file'.value? f = some x) ∧
      ∀ f : Field, (∀ e ∈ d, e.1.name ≠ f.key) → file'.value? f = file.value? f) ∨
    ∃ flaw before e after, readEntries d file = .error flaw ∧ d = before ++ e :: after ∧
      (∀ b ∈ before, Fits b) ∧ Reported e flaw := by
  induction d generalizing file with
  | nil => exact .inl ⟨file, rfl, nofun, fun _ _ => rfl⟩
  | cons e r ih =>
    obtain ⟨hfresh, hrest⟩ := List.nodup_cons.mp once
    obtain ⟨he, hr⟩ := List.forall_mem_cons.mp hsound
    rcases readEntry_cases he file with ⟨f, x, hname, hgives, hread⟩ | ⟨flaw, hflaw, hread⟩
    · have hstep : readEntries (e :: r) file = readEntries r (file.put f x) := by
        rw [readEntries, hread]
        rfl
      rw [hstep]
      rcases ih hrest hr (file.put f x) with
        ⟨file', hfile', hgiven, hkept⟩ | ⟨flaw, before, b, after, herror, rfl, hbefore, hb⟩
      · -- the rest has no entry for this field, so it keeps what was put
        refine .inl ⟨file', hfile', List.forall_mem_cons.mpr ⟨⟨f, x, hname, hgives, ?_⟩, hgiven⟩, ?_⟩
        · rw [hkept f fun b hb hsame => hfresh (List.mem_map.mpr ⟨b, hb, hsame.trans hname.symm⟩),
            value?_put hgives]
        · intro g hg
          obtain ⟨hne, hg⟩ := List.forall_mem_cons.mp hg
          rw [hkept g hg, value?_put_of_ne]
          rintro rfl
          exact hne hname
      · exact .inr ⟨flaw, e :: before, b, after, herror, rfl,
          List.forall_mem_cons.mpr ⟨⟨f, x, hname, hgives⟩, hbefore⟩, hb⟩
    · refine .inr ⟨flaw, [], e, r, ?_, rfl, nofun, hflaw⟩
      rw [readEntries, hread]
      rfl

lemma readEntries_append (before after : Toml.Document) (file : FileSettings) :
    readEntries (before ++ after) file = readEntries before file >>= readEntries after := by
  induction before generalizing file with
  | nil => rfl
  | cons e r ih =>
    simp only [List.cons_append, readEntries, ih, bind_assoc]

lemma readEntry_port {label : Toml.Label} (h : label.name = Field.port.key) (n : Nat)
    (file : FileSettings) :
    readEntry (label, .integer n) file = readEntry (label, .text (Decimal.text n)) file := by
  rw [readEntry_of_key h, readEntry_of_key h]
  rfl

end Runs

section Documents

/-- What an accepted document says: for each entry the value it gives, and nothing else. -/
structure Describes (d : Toml.Document) (file : FileSettings) : Prop where
  given : ∀ e ∈ d, ∃ f x, e.1.name = Field.key f ∧ f.Gives e.2 x ∧ file.value? f = some x
  absent : ∀ f : Field, (∀ e ∈ d, e.1.name ≠ f.key) → file.value? f = none

lemma ofDocument_cases (hd : Toml.WellFormed d) :
    (∃ file, ofDocument d = .ok file ∧ Describes d file) ∨
    ∃ flaw before e after, ofDocument d = .error flaw ∧ d = before ++ e :: after ∧
      (∀ b ∈ before, Fits b) ∧ Reported e flaw := by
  obtain ⟨once, hsound⟩ := Toml.wellFormed_iff.mp hd
  rcases readEntries_cases once hsound empty with ⟨file, hfile, hgiven, hkept⟩ | hflaw
  · refine .inl ⟨file, hfile, hgiven, fun f hf => (hkept f hf).trans ?_⟩
    cases f <;> rfl
  · exact .inr hflaw

lemma Describes.fits {file : FileSettings} (h : Describes d file) : ∀ e ∈ d, Fits e := by
  intro e he
  obtain ⟨f, x, hname, hgives, -⟩ := h.given e he
  exact ⟨f, x, hname, hgives⟩

lemma exists_ofDocument_iff (hd : Toml.WellFormed d) :
    (∃ file, ofDocument d = .ok file) ↔ ∀ e ∈ d, Fits e := by
  rcases ofDocument_cases hd with ⟨file, hfile, hdescribes⟩ |
    ⟨flaw, before, e, after, hflaw, rfl, -, hreported⟩
  · exact iff_of_true ⟨file, hfile⟩ hdescribes.fits
  · refine iff_of_false (fun ⟨file, hfile⟩ => ?_) fun h => ?_
    · rw [hflaw] at hfile
      cases hfile
    · exact hreported.not_fits (h e (List.mem_append_right _ List.mem_cons_self))

lemma ofDocument_error_iff {flaw : Flaw} (hd : Toml.WellFormed d) :
    ofDocument d = .error flaw ↔ ∃ before e after, d = before ++ e :: after ∧
      (∀ b ∈ before, Fits b) ∧ ¬ Fits e ∧ Reported e flaw := by
  rcases ofDocument_cases hd with ⟨file, hfile, hdescribes⟩ |
    ⟨flaw', before', e', after', hflaw', hsplit', hbefore', hreported'⟩
  · refine iff_of_false (fun h => ?_) ?_
    · rw [hfile] at h
      cases h
    · rintro ⟨before, e, after, rfl, -, he, -⟩
      exact he (hdescribes.fits e (List.mem_append_right _ List.mem_cons_self))
  · constructor
    · intro h
      rw [hflaw'] at h
      obtain rfl := Except.error.inj h
      exact ⟨before', e', after', hsplit', hbefore', hreported'.not_fits, hreported'⟩
    · rintro ⟨before, e, after, hsplit, hbefore, he, hreported⟩
      obtain rfl : e = e' := first_not_unique (hsplit.symm.trans hsplit') hbefore he hbefore'
        hreported'.not_fits
      rw [hflaw', hreported.unique hreported']

lemma describes_of_ofDocument {file : FileSettings} (hd : Toml.WellFormed d)
    (h : ofDocument d = .ok file) : Describes d file := by
  rcases ofDocument_cases hd with ⟨file', hfile, hdescribes⟩ | ⟨flaw, -, -, -, hflaw, -⟩
  · rw [h] at hfile
    rwa [Except.ok.inj hfile]
  · rw [h] at hflaw
    cases hflaw

lemma value?_of_mem {file : FileSettings} {e : Toml.Entry} {f : Field} (h : Describes d file)
    (he : e ∈ d) (hf : e.1.name = f.key) : ∃ x, f.Gives e.2 x ∧ file.value? f = some x := by
  obtain ⟨g, x, hname, hgives, hvalue⟩ := h.given e he
  obtain rfl := Field.key_injective (hname.symm.trans hf)
  exact ⟨x, hgives, hvalue⟩

end Documents

section Order

variable {v w : Toml.Value} {e e' : Toml.Entry} {f : Field}

lemma exists_entry_iff {xs ys : List Toml.Entry}
    (h : (xs.map fun e => (e.1.name, e.2)).Perm (ys.map fun e => (e.1.name, e.2))) (k : String)
    (v : Toml.Value) :
    (∃ e ∈ xs, e.1.name = k ∧ e.2 = v) ↔ ∃ e ∈ ys, e.1.name = k ∧ e.2 = v := by
  have hmem := h.mem_iff (a := (k, v))
  simpa only [List.mem_map, Prod.mk.injEq] using hmem

lemma sound_of_moved (h : v.Moved w) (hv : v.Sound) : w.Sound := by
  cases h with
  | same => exact hv
  | @table xs ys h =>
    obtain ⟨once, hsound⟩ := Toml.wellFormed_iff.mp hv
    refine .table ?_ fun e he => ?_
    · have hnames := h.map Prod.fst
      simp only [List.map_map, Function.comp_def] at hnames
      exact hnames.nodup_iff.mp once
    · obtain ⟨e', he', -, hsame⟩ := (exists_entry_iff h e.1.name e.2).mpr ⟨e, he, rfl, rfl⟩
      rw [← hsame]
      exact hsound e' he'

lemma givenBy_of_moved {tags : Tags} (h : v.Moved w) (hv : tags.GivenBy v) : tags.GivenBy w := by
  cases h with
  | same => exact hv
  | @table xs ys h =>
    cases hv with
    | table texts same =>
      refine .table (fun e he => ?_) fun k s => (same k s).trans (exists_entry_iff h k (.text s))
      obtain ⟨e', he', -, hsame⟩ := (exists_entry_iff h e.1.name e.2).mpr ⟨e, he, rfl, rfl⟩
      rw [← hsame]
      exact texts e' he'

lemma gives_of_moved {x : f.Value} (h : v.Moved w) (hv : f.Gives v x) : f.Gives w x := by
  cases f with
  | tags => exact ⟨hv.1, givenBy_of_moved h hv.2⟩
  | port =>
    cases h with
    | same => exact hv
    | table => rcases hv with hv | ⟨n, hv, -⟩ <;> cases hv
  | dataDir | logLevel | tenant | shutdownTimeoutSecs | heartbeatIntervalSecs =>
    cases h with
    | same => exact hv
    | table => cases hv
  | logFile | name | controlPlane | metricsAddress =>
    cases h with
    | same => exact hv
    | table =>
      obtain ⟨s, hs, -⟩ := hv
      cases hs

lemma exists_of_forall₂ {α β : Type} {R : α → β → Prop} {xs : List α} {ys : List β} {x : α}
    (h : List.Forall₂ R xs ys) (hx : x ∈ xs) : ∃ y ∈ ys, R x y := by
  induction h with
  | nil => cases hx
  | cons hhead _ ih =>
    rcases List.mem_cons.mp hx with rfl | hx
    · exact ⟨_, List.mem_cons_self, hhead⟩
    · exact (ih hx).imp fun y hy => ⟨List.mem_cons_of_mem _ hy.1, hy.2⟩

lemma exists_moved_to (h : Toml.Rearranged d d') (he : e ∈ d) : ∃ e' ∈ d', e.Moved e' := by
  obtain ⟨sorted, hperm, hmoved⟩ := h
  exact exists_of_forall₂ hmoved (hperm.mem_iff.mp he)

lemma exists_moved_from (h : Toml.Rearranged d d') (he : e' ∈ d') : ∃ e ∈ d, e.Moved e' := by
  obtain ⟨sorted, hperm, hmoved⟩ := h
  obtain ⟨e, he, hmove⟩ := exists_of_forall₂ hmoved.flip he
  exact ⟨e, hperm.mem_iff.mpr he, hmove⟩

lemma wellFormed_of_rearranged (h : Toml.Rearranged d d') (hd : Toml.WellFormed d) :
    Toml.WellFormed d' := by
  obtain ⟨once, hsound⟩ := Toml.wellFormed_iff.mp hd
  refine Toml.wellFormed_iff.mpr ⟨?_, fun e' he' => ?_⟩
  · obtain ⟨sorted, hperm, hmoved⟩ := h
    have hnames : sorted.map (·.1.name) = d'.map (·.1.name) := by
      rw [← List.forall₂_eq_eq_eq, List.forall₂_map_left_iff, List.forall₂_map_right_iff]
      exact hmoved.imp fun e e' hmove => hmove.1
    rw [← hnames]
    exact (hperm.map _).nodup_iff.mp once
  · obtain ⟨e, he, -, hmoved⟩ := exists_moved_from h he'
    exact sound_of_moved hmoved (hsound e he)

lemma ofDocument_rearranged {file : FileSettings} (h : Toml.Rearranged d d')
    (hd : Toml.WellFormed d) (hfile : ofDocument d = .ok file) : ofDocument d' = .ok file := by
  have hd' : Toml.WellFormed d' := wellFormed_of_rearranged h hd
  have hdescribes : Describes d file := describes_of_ofDocument hd hfile
  have hfits : ∀ e' ∈ d', Fits e' := by
    intro e' he'
    obtain ⟨e, he, hname, hmoved⟩ := exists_moved_from h he'
    obtain ⟨f, x, hf, hgives⟩ := hdescribes.fits e he
    exact ⟨f, x, hname.symm.trans hf, gives_of_moved hmoved hgives⟩
  obtain ⟨file', hfile'⟩ := (exists_ofDocument_iff hd').mpr hfits
  have hdescribes' : Describes d' file' := describes_of_ofDocument hd' hfile'
  suffices file' = file by rw [hfile', this]
  refine ext_value? fun f => ?_
  by_cases hf : ∃ e ∈ d, e.1.name = f.key
  · obtain ⟨e, he, hname⟩ := hf
    obtain ⟨e', he', hsame, hmoved⟩ := exists_moved_to h he
    obtain ⟨x, hx, hvalue⟩ := value?_of_mem hdescribes he hname
    obtain ⟨y, hy, hvalue'⟩ := value?_of_mem hdescribes' he' (hsame.symm.trans hname)
    rw [hvalue, hvalue', (gives_of_moved hmoved hx).unique hy]
  · have habsent : ∀ e ∈ d, e.1.name ≠ f.key := fun e he hname => hf ⟨e, he, hname⟩
    rw [hdescribes.absent f habsent, hdescribes'.absent f fun e' he' hname => ?_]
    obtain ⟨e, he, hsame, -⟩ := exists_moved_from h he'
    exact habsent e he (hsame.trans hname)

end Order

end FileSettings

namespace Assembly

variable {σ : Type}

lemma value_take_file (a : Assembly σ) (file : FileSettings) (f : Field) :
    (a.take (.file file)).draft.value f = (file.value? f).getD (a.draft.value f) := by
  change (a.draft.writeAll file.writes).value f = _
  rw [Draft.value_writeAll, file.valuesFor_writes]
  cases file.value? f <;> rfl

end Assembly

namespace FileSettings

/-- A text that is a document at all is a well-formed one. A well-formed document is accepted if
each entry names a field and has a value of its type, and else its first entry that does not is
reported. An accepted file changes the fields it names to the values it gives, and nothing else; the
order of its entries does not count, and an empty one changes nothing. A port may be a number or the
text of its digits. -/
theorem document_sets_its_fields {d : Toml.Document} (hd : Toml.WellFormed d) :
    (∀ text d', Toml.parse text = .ok d' →
      Toml.WellFormed d' ∧ parse text = (ofDocument d').mapError .entry) ∧
    ((∃ file, ofDocument d = .ok file) ↔ ∀ e ∈ d, Fits e) ∧
    (∀ flaw, ofDocument d = .error flaw ↔ ∃ before e after, d = before ++ e :: after ∧
      (∀ b ∈ before, Fits b) ∧ ¬ Fits e ∧ Reported e flaw) ∧
    (∀ file, ofDocument d = .ok file →
      (∀ (σ : Type) (a : Assembly σ), let a' := a.take (.file file)
        a'.draft.role = a.draft.role ∧ a'.store = a.store ∧ (d = [] → a' = a) ∧
        ∀ f : Field, (∀ e ∈ d, e.1.name = f.key → f.Gives e.2 (a'.draft.value f)) ∧
          ((∀ e ∈ d, e.1.name ≠ f.key) → a'.draft.value f = a.draft.value f)) ∧
      ∀ d', Toml.Rearranged d d' → ofDocument d' = .ok file) ∧
    ∀ before label after (n : Nat), d = before ++ (label, .integer n) :: after →
      label.name = Field.port.key →
      ofDocument (before ++ (label, .text (Decimal.text n)) :: after) = ofDocument d := by
  refine ⟨fun text d' htext => ⟨Toml.wellFormed_of_parse htext, ?_⟩, exists_ofDocument_iff hd,
    fun flaw => ofDocument_error_iff hd,
    fun file hfile => ⟨fun σ a => ?_, fun d' h => ofDocument_rearranged h hd hfile⟩, ?_⟩
  · rw [parse, htext]
  · have hdescribes : Describes d file := describes_of_ofDocument hd hfile
    have hrole : (a.take (.file file)).draft.role = a.draft.role := Draft.role_writeAll _ _
    have hkept (f : Field) (hf : ∀ e ∈ d, e.1.name ≠ f.key) :
        (a.take (.file file)).draft.value f = a.draft.value f := by
      rw [Assembly.value_take_file, hdescribes.absent f hf]
      rfl
    refine ⟨hrole, rfl, ?_, fun f => ⟨fun e he hname => ?_, hkept f⟩⟩
    · rintro rfl
      exact congrArg₂ Assembly.mk (Draft.ext_value hrole fun f => hkept f nofun) rfl
    · obtain ⟨x, hx, hvalue⟩ := value?_of_mem hdescribes he hname
      rwa [Assembly.value_take_file, hvalue]
  · rintro before label after n rfl hlabel
    rw [ofDocument, ofDocument, readEntries_append, readEntries_append]
    congr 1
    funext file
    rw [readEntries, readEntries, readEntry_port hlabel]

theorem document_sets_its_fields_port :
    let d : Toml.Document := [(⟨"port", 0, 7⟩, .integer 8080)]
    Toml.WellFormed d ∧ ∃ file, ofDocument d = .ok file ∧
      ∀ a : Assembly Unit, (a.take (.file file)).draft.value .port = "8080" ∧
        (a.take (.file file)).draft.value .tenant = a.draft.value .tenant := by
  intro d
  have hd : Toml.WellFormed d :=
    Toml.wellFormed_iff.mpr ⟨by decide, List.forall_mem_singleton.mpr (.integer (by decide))⟩
  have hport : Field.port.Gives (.integer 8080) "8080" := .inr ⟨8080, rfl, by decide⟩
  obtain ⟨-, haccepted, -, hput, -⟩ := document_sets_its_fields hd
  obtain ⟨file, hfile⟩ := haccepted.mpr (List.forall_mem_singleton.mpr ⟨.port, _, rfl, hport⟩)
  refine ⟨hd, file, hfile, fun a => ?_⟩
  obtain ⟨-, -, -, hfields⟩ := (hput file hfile).1 Unit a
  have hgiven := (hfields .port).1 _ List.mem_cons_self rfl
  refine ⟨hgiven.unique hport, (hfields .tenant).2 (List.forall_mem_singleton.mpr ?_)⟩
  decide

/-- A date is no table of texts, but is taken for one. -/
theorem date_read_as_tags :
    let d : Toml.Document := [(⟨"tags", 0, 7⟩, .moment "1979-05-27")]
    let file := { empty with tags := some (Table.insert ∅ "$__toml_private_datetime" "1979-05-27") }
    Toml.WellFormed d ∧ ofDocument d = .ok file ∧
      (parse "tags = 1979-05-27").toOption = some file := by
  intro d file
  have hd : Toml.WellFormed d :=
    Toml.wellFormed_iff.mpr ⟨by decide, List.forall_mem_singleton.mpr (.moment _)⟩
  exact ⟨hd, rfl, by decide +kernel⟩

end FileSettings

end DeviceFleet
