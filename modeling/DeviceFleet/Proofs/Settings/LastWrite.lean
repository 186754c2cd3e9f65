import DeviceFleet.Settings.Draft
import Mathlib.Data.List.Basic
import Mathlib.Tactic.Lemma

/-! Settings are written one at a time, or many at once from a file. Of the writes to one field the
last counts, whatever is written to others meanwhile; only the order within each field matters. -/

namespace DeviceFleet

inductive Field
  | port
  | dataDir
  | logLevel
  | logFile
  | name
  | controlPlane
  | tags
  | tenant
  | shutdownTimeoutSecs
  | heartbeatIntervalSecs
  | metricsAddress
  deriving DecidableEq, Repr

/-- What a field holds; tags come with the pairs of their list that are none. -/
@[reducible] def Field.Value : Field → Type
  | .port | .dataDir | .logLevel | .tenant => String
  | .logFile | .name | .controlPlane | .metricsAddress => Option String
  | .tags => Tags.Reading
  | .shutdownTimeoutSecs | .heartbeatIntervalSecs => UInt64

namespace Setting

def field : Setting → Field
  | .port _ => .port
  | .dataDir _ => .dataDir
  | .logLevel _ => .logLevel
  | .logFile _ => .logFile
  | .name _ => .name
  | .controlPlane _ => .controlPlane
  | .tags _ => .tags
  | .tagList _ => .tags
  | .tenant _ => .tenant
  | .shutdownTimeoutSecs _ => .shutdownTimeoutSecs
  | .heartbeatIntervalSecs _ => .heartbeatIntervalSecs
  | .metricsAddress _ => .metricsAddress

def value : (w : Setting) → w.field.Value
  | .port v => v
  | .dataDir v => v
  | .logLevel v => v
  | .logFile v => some v
  | .name v => some v
  | .controlPlane v => some v
  | .tags v => ⟨v, []⟩
  | .tagList v => Tags.read v
  | .tenant v => v
  | .shutdownTimeoutSecs v => v
  | .heartbeatIntervalSecs v => v
  | .metricsAddress v => some v

def valueFor? (f : Field) (w : Setting) : Option f.Value :=
  if h : w.field = f then some (h ▸ w.value) else none

/-- What some writes put into a field, one value after another. -/
def valuesFor (f : Field) (ws : List Setting) : List f.Value := ws.filterMap (valueFor? f)

lemma valueFor?_self (w : Setting) : valueFor? w.field w = some w.value := dif_pos rfl

lemma valueFor?_of_ne {w : Setting} {f : Field} (h : w.field ≠ f) : valueFor? f w = none :=
  dif_neg h

lemma valuesFor_append (f : Field) (xs ys : List Setting) :
    valuesFor f (xs ++ ys) = valuesFor f xs ++ valuesFor f ys := List.filterMap_append

/-- The pairs of a tag list that are none. -/
def rejected : Setting → List String
  | .tagList text => (Tags.read text).rejected
  | _ => []

lemma valuesFor_map_toList {α : Type} (f : Field) (write : α → Setting) (given : Option α) :
    valuesFor f (given.toList.map write) = (given.bind fun a => valueFor? f (write a)).toList := by
  cases given with
  | none => rfl
  | some a =>
    cases h : valueFor? f (write a) with
    | none => simp [valuesFor, h]
    | some v => simp [valuesFor, h]

end Setting

/-- What a file gives for a field. -/
def FileSettings.value? (file : FileSettings) : (f : Field) → Option f.Value
  | .port => file.port
  | .dataDir => file.dataDir
  | .logLevel => file.logLevel
  | .logFile => file.logFile.map some
  | .name => file.name.map some
  | .controlPlane => file.controlPlane.map some
  | .tags => file.tags.map fun tags => ⟨tags, []⟩
  | .tenant => file.tenant
  | .shutdownTimeoutSecs => file.shutdownTimeoutSecs
  | .heartbeatIntervalSecs => file.heartbeatIntervalSecs
  | .metricsAddress => file.metricsAddress.map some

lemma FileSettings.valuesFor_writes (file : FileSettings) (f : Field) :
    Setting.valuesFor f file.writes = (file.value? f).toList := by
  simp only [writes, Setting.valuesFor_append, Setting.valuesFor_map_toList]
  cases f <;> simp [Setting.valueFor?, Setting.field, Setting.value, value?]
  -- What is left are the fields whose own values may be absent too.
  all_goals exact congrArg Option.toList Option.map_eq_bind.symm

namespace Draft

variable {d e : Draft}

def value (d : Draft) : (f : Field) → f.Value
  | .port => d.settings.port
  | .dataDir => d.settings.dataDir
  | .logLevel => d.settings.logLevel
  | .logFile => d.settings.logFile
  | .name => d.settings.name
  | .controlPlane => d.settings.controlPlane
  | .tags => ⟨d.settings.tags, d.rejectedTags⟩
  | .tenant => d.settings.tenant
  | .shutdownTimeoutSecs => d.settings.shutdownTimeoutSecs
  | .heartbeatIntervalSecs => d.settings.heartbeatIntervalSecs
  | .metricsAddress => d.settings.metricsAddress

lemma ext_value (hrole : d.role = e.role) (h : ∀ f, d.value f = e.value f) : d = e := by
  obtain ⟨role, ⟨port, dataDir, logLevel, logFile, name, controlPlane, tags, tenant, timeout,
    interval, metricsAddress⟩, rejected⟩ := d
  obtain ⟨role', ⟨port', dataDir', logLevel', logFile', name', controlPlane', tags', tenant',
    timeout', interval', metricsAddress'⟩, rejected'⟩ := e
  obtain rfl : role = role' := hrole
  obtain rfl : port = port' := h .port
  obtain rfl : dataDir = dataDir' := h .dataDir
  obtain rfl : logLevel = logLevel' := h .logLevel
  obtain rfl : logFile = logFile' := h .logFile
  obtain rfl : name = name' := h .name
  obtain rfl : controlPlane = controlPlane' := h .controlPlane
  obtain ⟨rfl, rfl⟩ : tags = tags' ∧ rejected = rejected' := Tags.Reading.mk.inj (h .tags)
  obtain rfl : tenant = tenant' := h .tenant
  obtain rfl : timeout = timeout' := h .shutdownTimeoutSecs
  obtain rfl : interval = interval' := h .heartbeatIntervalSecs
  obtain rfl : metricsAddress = metricsAddress' := h .metricsAddress
  rfl

lemma role_write (d : Draft) (w : Setting) : (d.write w).role = d.role := by
  cases w <;> rfl

lemma value_write_self (d : Draft) (w : Setting) : (d.write w).value w.field = w.value := by
  cases w <;> rfl

lemma value_write_of_ne {w : Setting} {f : Field} (h : w.field ≠ f) :
    (d.write w).value f = d.value f := by
  cases w <;> cases f <;> first | rfl | exact absurd rfl h

lemma role_writeAll (ws : List Setting) (d : Draft) : (d.writeAll ws).role = d.role := by
  induction ws generalizing d with
  | nil => rfl
  | cons w rest ih => exact (ih (d.write w)).trans (role_write d w)

lemma value_writeAll (f : Field) (ws : List Setting) (d : Draft) :
    (d.writeAll ws).value f = (Setting.valuesFor f ws).getLastD (d.value f) := by
  induction ws generalizing d with
  | nil => rfl
  | cons w rest ih =>
    change ((d.write w).writeAll rest).value f = _
    rw [ih]
    by_cases h : w.field = f
    · subst h
      rw [value_write_self, Setting.valuesFor, Setting.valuesFor, List.filterMap_cons,
        Setting.valueFor?_self, List.getLastD_cons]
    · rw [value_write_of_ne h, Setting.valuesFor, Setting.valuesFor, List.filterMap_cons,
        Setting.valueFor?_of_ne h]

lemma rejectedTags_write (d : Draft) (w : Setting) :
    (d.write w).rejectedTags = if w.field = .tags then w.rejected else d.rejectedTags := by
  cases w <;> rfl

lemma rejectedTags_writeAll (ws : List Setting) (d : Draft) :
    (d.writeAll ws).rejectedTags =
      ((ws.filter (·.field = .tags)).map Setting.rejected).getLastD d.rejectedTags := by
  induction ws generalizing d with
  | nil => rfl
  | cons w rest ih =>
    change ((d.write w).writeAll rest).rejectedTags = _
    rw [ih, rejectedTags_write]
    by_cases h : w.field = .tags
    · rw [if_pos h, List.filter_cons_of_pos (by simpa using h), List.map_cons, List.getLastD_cons]
    · rw [if_neg h, List.filter_cons_of_neg (by simpa using h)]

lemma writeAll_congr {xs ys : List Setting}
    (h : ∀ f, Setting.valuesFor f xs = Setting.valuesFor f ys) (d : Draft) :
    d.writeAll xs = d.writeAll ys := by
  apply ext_value
  · rw [role_writeAll, role_writeAll]
  · intro f
    rw [value_writeAll, value_writeAll, h]

end Draft

/-- A draft with the store that its service is to use, if one was chosen. -/
structure Assembly (σ : Type) where
  draft : Draft
  store : Option σ

namespace Assembly

variable {σ : Type}

inductive Step (σ : Type)
  | write (w : Setting)
  | file (f : FileSettings)
  | store (s : σ)

def Step.writes : Step σ → List Setting
  | .write w => [w]
  | .file f => f.writes
  | .store _ => []

def Step.store? : Step σ → Option σ
  | .store s => some s
  | _ => none

def take (a : Assembly σ) : Step σ → Assembly σ
  | .write w => { a with draft := a.draft.write w }
  | .file f => { a with draft := a.draft.applyFile f }
  | .store s => { a with store := some s }

def takeAll (a : Assembly σ) (steps : List (Step σ)) : Assembly σ := steps.foldl take a

/-- A service comes with a fresh store if none was chosen. -/
def build (cwd : String) (fresh : σ) (a : Assembly σ) : Except (List Violation) (Service × σ) :=
  (a.draft.build cwd).map fun s => (s, a.store.getD fresh)

lemma draft_takeAll (steps : List (Step σ)) (a : Assembly σ) :
    (a.takeAll steps).draft = a.draft.writeAll (steps.flatMap Step.writes) := by
  induction steps generalizing a with
  | nil => rfl
  | cons step rest ih =>
    have hstep : (a.take step).draft = a.draft.writeAll step.writes := by
      cases step <;> rfl
    change ((a.take step).takeAll rest).draft = _
    rw [ih, hstep, List.flatMap_cons]
    exact List.foldl_append.symm

lemma store_takeAll (steps : List (Step σ)) (a : Assembly σ) :
    (a.takeAll steps).store = ((steps.filterMap Step.store?).map some).getLastD a.store := by
  induction steps generalizing a with
  | nil => rfl
  | cons step rest ih =>
    change ((a.take step).takeAll rest).store = _
    rw [ih]
    cases step with
    | write w | file f => rfl
    | store s => exact List.getLastD_cons.symm

lemma takeAll_congr {xs ys : List (Step σ)}
    (hwrites : ∀ f, Setting.valuesFor f (xs.flatMap Step.writes) =
      Setting.valuesFor f (ys.flatMap Step.writes))
    (hstores : xs.filterMap Step.store? = ys.filterMap Step.store?) (a : Assembly σ) :
    a.takeAll xs = a.takeAll ys := by
  have hdraft : (a.takeAll xs).draft = (a.takeAll ys).draft := by
    rw [draft_takeAll, draft_takeAll, Draft.writeAll_congr hwrites]
  have hstore : (a.takeAll xs).store = (a.takeAll ys).store := by
    rw [store_takeAll, store_takeAll, hstores]
  exact congrArg₂ mk hdraft hstore

/-- Each field ends with what was last written to it, or as it was at the start; the pairs rejected
are those of the last tag list, unless tags were written since. Steps that write the same to each
field in the same order, and choose the same stores, build the same service. A file stands for one
write of each of its keys, in any order. -/
theorem last_write_counts (role : Role) (settings : Settings) (steps : List (Step σ)) (cwd : String)
    (fresh : σ) :
    let start : Assembly σ := ⟨.ofSettings role settings, none⟩
    let ws := steps.flatMap Step.writes
    let built := start.takeAll steps
    built.draft.role = role ∧
    (∀ f, built.draft.value f = (Setting.valuesFor f ws).getLastD (start.draft.value f)) ∧
    built.draft.rejectedTags =
      ((ws.filter (·.field = .tags)).map Setting.rejected).getLastD [] ∧
    (∀ others : List (Step σ),
      (∀ f, Setting.valuesFor f (others.flatMap Step.writes) = Setting.valuesFor f ws) →
      others.filterMap Step.store? = steps.filterMap Step.store? →
      start.takeAll others = built ∧
        (start.takeAll others).build cwd fresh = built.build cwd fresh) ∧
    ∀ file : FileSettings,
      (∀ f, Setting.valuesFor f file.writes = (file.value? f).toList) ∧
      ∀ singles, (∀ f, Setting.valuesFor f singles = (file.value? f).toList) →
        built.take (.file file) = built.takeAll (singles.map .write) := by
  intro start ws built
  have hdraft : built.draft = start.draft.writeAll ws := draft_takeAll steps start
  refine ⟨?_, fun f => ?_, ?_, fun others hwrites hstores => ?_, fun file => ⟨?_, ?_⟩⟩
  · rw [hdraft, Draft.role_writeAll]
    rfl
  · rw [hdraft, Draft.value_writeAll]
  · rw [hdraft, Draft.rejectedTags_writeAll]
    rfl
  · have hsame : start.takeAll others = built := takeAll_congr hwrites hstores start
    exact ⟨hsame, congrArg (build cwd fresh) hsame⟩
  · exact file.valuesFor_writes
  · intro singles hsingles
    have hwrites : (singles.map (.write : Setting → Step σ)).flatMap Step.writes = singles := by
      simp [List.flatMap_map, Step.writes]
    have hstores : (singles.map (.write : Setting → Step σ)).filterMap Step.store? = [] := by
      simp [Step.store?]
    change built.takeAll [.file file] = _
    apply takeAll_congr
    · intro f
      rw [hwrites, hsingles, ← file.valuesFor_writes, List.flatMap_singleton]
      rfl
    · rw [hstores]
      rfl

end Assembly

end DeviceFleet
