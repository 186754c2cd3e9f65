import DeviceFleet.Lifecycle.Startup
import DeviceFleet.Proofs.Agent.Registration
import DeviceFleet.Proofs.Settings.Denotation

/-! Settings are accepted if no constraint is violated. What is read from them once more after that,
in the assembly of a service, in its start or in the registration of a device, is as accepted. -/

namespace DeviceFleet

namespace Constraint

variable {role : Role} {s : Settings} {c c' : Constraint}

/-- What a constraint asks for, in terms of the texts themselves. -/
def Met (role : Role) (s : Settings) : Constraint → Prop
  | .port => ∃ n, PortText s.port n
  | .dataDir => s.dataDir ≠ ""
  | .logLevel => ∃ l, LevelText s.logLevel l
  | .name => role = .device → ∃ name, s.name = some name ∧ ∃ c ∈ name.toList, Text.isWhite c = false
  | .tenant => role = .device → ∃ c ∈ s.tenant.toList, Text.isWhite c = false
  | .controlPlane => ∀ address, s.controlPlane = some address → HostPortText address
  | .shutdownTimeout => s.shutdownTimeoutSecs ≠ 0
  | .heartbeatInterval => s.heartbeatIntervalSecs ≠ 0
  | .metricsAddress => ∀ text, s.metricsAddress = some text →
      ∃ address, Net.SocketAddress.parse? text = some address

lemma mem_all (c : Constraint) : c ∈ all := by
  cases c <;> decide

lemma violation_injective (h : c.violation s = c'.violation s) : c = c' := by
  cases c <;> cases c' <;> first | rfl | simp [violation] at h

lemma broken_eq_false_iff : c.broken role s = false ↔ c.Met role s := by
  cases c with
  | port =>
    simp only [broken, Met, ← readPort_eq_some_iff, Option.isNone_eq_false_iff,
      Option.isSome_iff_exists]
  | dataDir => simp [broken, Met]
  | logLevel =>
    simp only [broken, Met, ← LogLevel.parse?_eq_some_iff, Option.isNone_eq_false_iff,
      Option.isSome_iff_exists]
  | name =>
    simp only [broken, Met, Settings.isNamed, ← Text.isBlank_eq_false_iff]
    cases s.name <;> simp
  | tenant => simp [broken, Met, ← Text.isBlank_eq_false_iff]
  | controlPlane =>
    simp only [broken, Met, ← isHostPort_iff]
    cases s.controlPlane <;> simp
  | shutdownTimeout => simp [broken, Met]
  | heartbeatInterval => simp [broken, Met]
  | metricsAddress =>
    simp only [broken, Met, ← Option.isSome_iff_exists]
    cases s.metricsAddress <;> simp

instance (role : Role) (s : Settings) (c : Constraint) : Decidable (c.Met role s) :=
  decidable_of_iff _ broken_eq_false_iff

lemma broken_eq (role : Role) (s : Settings) (c : Constraint) :
    c.broken role s = decide ¬ c.Met role s := by
  cases h : c.broken role s with
  | false => simp [broken_eq_false_iff.mp h]
  | true =>
    have hnot : ¬ c.Met role s := by rw [← broken_eq_false_iff, h]; exact nofun
    simp [hnot]

lemma violations_eq (role : Role) (s : Settings) :
    s.violations role = (all.filter fun c => ¬ c.Met role s).map (violation s) := by
  have hbroken : (all.filter fun c => ¬ c.Met role s) = all.filter (broken role s) :=
    List.filter_congr fun c _ => (broken_eq role s c).symm
  rw [Settings.violations, hbroken]

lemma nodup_violations (role : Role) (s : Settings) : (s.violations role).Nodup := by
  rw [violations_eq]
  have hall : all.Nodup := by decide
  exact (hall.filter _).map fun _ _ => violation_injective

lemma violations_eq_nil_iff : s.violations role = [] ↔ ∀ c : Constraint, c.Met role s := by
  rw [violations_eq, List.map_eq_nil_iff, List.filter_eq_nil_iff]
  constructor
  · intro h c
    simpa using h c (mem_all c)
  · intro h c _
    simpa using h c

end Constraint

namespace Files

def IsAbsolute (path : String) : Prop := ∃ rest, path.toList = '/' :: rest

lemma exists_joinPart {path : List Char} (h : ∃ rest, path = '/' :: rest) (part : List Char) :
    ∃ rest, joinPart path part = '/' :: rest := by
  obtain ⟨rest, rfl⟩ := h
  rw [joinPart]
  split
  · exact ⟨rest ++ part, rfl⟩
  · exact ⟨rest ++ '/' :: part, rfl⟩

lemma exists_rootOf {cwd : List Char} (h : ∃ rest, cwd = '/' :: rest) (path : List Char) :
    ∃ rest, rootOf cwd path = '/' :: rest := by
  unfold rootOf
  split
  · exact ⟨[], rfl⟩
  · exact ⟨['/'], rfl⟩
  · exact ⟨[], rfl⟩
  · exact h

lemma isAbsolute_absolutePath {cwd : String} (h : IsAbsolute cwd) (path : String) :
    IsAbsolute (absolutePath cwd path) := by
  have hparts (parts : List (List Char)) :
      ∃ rest, parts.foldl joinPart (rootOf cwd.toList path.toList) = '/' :: rest := by
    induction parts using List.reverseRecOn with
    | nil => exact exists_rootOf h path.toList
    | append_singleton parts part ih =>
      rw [List.foldl_append]
      exact exists_joinPart ih part
  rw [IsAbsolute, absolutePath, String.toList_ofList, absoluteChars]
  split
  · exact exists_joinPart (hparts _) []
  · exact hparts _

end Files

/-- Whatever else makes a registration fail, it is never the key. -/
lemma register_ne_invalidKey {r : Record} (hr : r.key.check = .ok ()) (clock : Nat → Timestamp)
    (n : Nat) (pauses : List (List Turn)) (c : Crowd) (reason : String) :
    ((register r).runAmid clock n pauses c).2.1 ≠ .error (.registration (.invalidKey reason)) := by
  cases hfirst : (c.run (pauses.headD [])).shared.store.record? r.key with
  | none =>
    rw [(runAmid_register_of_free hr clock n pauses hfirst).1]
    exact nofun
  | some old =>
    rw [(runAmid_register_of_held hr clock n pauses hfirst).1]
    generalize ((c.run (pauses.headD [])).run (pauses.tail.headD [])).shared.store = met
    cases hmet : met.record? r.key with
    | none =>
      rw [Store.update_of_free hr hmet]
      exact nofun
    | some there =>
      rw [Store.update_of_held hr hmet]
      exact nofun

namespace Service

variable {s : Service}

lemma startExporter_error {refusal : Net.SocketAddress → Option String} {why : Failure}
    (hmet : Constraint.metricsAddress.Met s.role s.settings)
    (h : s.startExporter refusal = .error why) :
    ∃ text address reason, s.settings.metricsAddress = some text ∧
      Net.SocketAddress.parse? text = some address ∧ refusal address = some reason ∧
      why = .metrics reason := by
  rw [startExporter] at h
  split at h
  · exact absurd h nofun
  · next text htext =>
    obtain ⟨address, haddress⟩ := hmet text htext
    simp only [haddress] at h
    split at h
    · next reason hreason =>
      exact ⟨text, address, reason, htext, haddress, hreason, (Except.error.inj h).symm⟩
    · exact absurd h nofun

lemma isSome_deviceRecord?_iff (hmet : Constraint.name.Met s.role s.settings) :
    s.deviceRecord?.isSome ↔ s.role = .device := by
  rw [deviceRecord?]
  cases hrole : s.role with
  | central => simp
  | device =>
    obtain ⟨name, hname, _⟩ := hmet hrole
    simp [hname]

lemma check_deviceRecord? {r : Record} (hname : Constraint.name.Met s.role s.settings)
    (htenant : Constraint.tenant.Met s.role s.settings) (h : s.deviceRecord? = some r) :
    r.key.check = .ok () := by
  rw [deviceRecord?] at h
  split at h
  · next name hrole hset =>
    obtain ⟨name', hset', hdark⟩ := hname hrole
    obtain rfl : name = name' := Option.some.inj (hset.symm.trans hset')
    obtain rfl := Option.some.inj h
    exact Key.check_of_not_blank (Text.isBlank_eq_false_iff.mpr (htenant hrole))
      (Text.isBlank_eq_false_iff.mpr hdark)
  · exact absurd h nofun

/-- What a service holds is what its settings denote, and nothing that reads them again can differ:
the exporter is given the address that was accepted, and the device a key that every store takes. -/
structure Denoted (cwd : String) (s : Service) : Prop where
  port : readPort s.settings.port = some s.port ∧ PortText s.settings.port s.port
  logLevel : LogLevel.parse? s.settings.logLevel = some s.logLevel ∧
    LevelText s.settings.logLevel s.logLevel
  dataDir : s.dataDir = Files.absolutePath cwd s.settings.dataDir ∧
    (Files.IsAbsolute cwd → Files.IsAbsolute s.dataDir)
  exporter : ∀ refusal why, s.startExporter refusal = .error why →
    ∃ text address reason, s.settings.metricsAddress = some text ∧
      Net.SocketAddress.parse? text = some address ∧ refusal address = some reason ∧
      why = .metrics reason
  record : s.deviceRecord?.isSome ↔ s.role = .device
  key : ∀ r, s.deviceRecord? = some r → r.key.check = .ok () ∧
    ∀ clock n pauses (c : Crowd) reason,
      ((register r).runAmid clock n pauses c).2.1 ≠ .error (.registration (.invalidKey reason))

lemma denoted_of_met {cwd : String} (hmet : ∀ c : Constraint, c.Met s.role s.settings)
    (hport : s.port = (readPort s.settings.port).getD 0)
    (hlevel : s.logLevel = (LogLevel.parse? s.settings.logLevel).getD .info)
    (hdir : s.dataDir = Files.absolutePath cwd s.settings.dataDir) : s.Denoted cwd where
  port := by
    obtain ⟨n, hn⟩ := hmet .port
    rw [hport, readPort_eq_some_iff.mpr hn]
    exact ⟨rfl, hn⟩
  logLevel := by
    obtain ⟨l, hl⟩ := hmet .logLevel
    rw [hlevel, LogLevel.parse?_eq_some_iff.mpr hl]
    exact ⟨rfl, hl⟩
  dataDir := ⟨hdir, fun hcwd => hdir ▸ Files.isAbsolute_absolutePath hcwd _⟩
  exporter := fun _ _ => startExporter_error (hmet .metricsAddress)
  record := isSome_deviceRecord?_iff (hmet .name)
  key := by
    intro r hr
    have hkey := check_deviceRecord? (hmet .name) (hmet .tenant) hr
    exact ⟨hkey, register_ne_invalidKey hkey⟩

end Service

namespace Draft

variable {d : Draft} {cwd : String} {s : Service}

lemma accepted_of_build (h : d.build cwd = .ok s) :
    s.role = d.role ∧ s.settings = d.settings ∧ ∀ c : Constraint, c.Met s.role s.settings := by
  rw [build] at h
  cases hv : d.settings.violations d.role with
  | nil =>
    simp only [hv] at h
    obtain rfl := Except.ok.inj h
    exact ⟨rfl, rfl, Constraint.violations_eq_nil_iff.mp hv⟩
  | cons v rest => simp [hv] at h

/-- A device that is accepted has a name, and a record to register. -/
lemma exists_deviceRecord? (h : d.build cwd = .ok s) (hrole : s.role = .device) :
    ∃ name own, s.settings.name = some name ∧ s.deviceRecord? = some own ∧
      own.key = ⟨s.settings.tenant, name⟩ ∧ own.tags = s.settings.tags ∧
      own.controlPlane = s.settings.controlPlane := by
  obtain ⟨-, -, hmet⟩ := accepted_of_build h
  obtain ⟨name, hname, -⟩ := hmet .name hrole
  let own := { Record.new s.settings.tenant name with
    tags := s.settings.tags
    controlPlane := s.settings.controlPlane }
  exact ⟨name, own, hname, by simp [own, Service.deviceRecord?, hrole, hname], rfl, rfl, rfl⟩

end Draft

/-- Settings are accepted if, and only if, they meet every constraint. Else the report has one
violation for each constraint that they do not meet, in the order in which all are listed here. -/
theorem Draft.build_meets_constraints (role : Role) (settings : Settings) (rejected : List String)
    (cwd : String) :
    let listed : List (Constraint × Violation) := [
      (.port, .port settings.port),
      (.dataDir, .emptyDataDir),
      (.logLevel, .logLevel settings.logLevel),
      (.name, .missingName),
      (.tenant, .emptyTenant),
      (.controlPlane, .controlPlane (settings.controlPlane.getD "")),
      (.shutdownTimeout, .zeroDuration "shutdown_timeout_secs"),
      (.heartbeatInterval, .zeroDuration "heartbeat_interval_secs"),
      (.metricsAddress, .metricsAddress (settings.metricsAddress.getD ""))]
    let broken := listed.filter fun x => ¬ x.1.Met role settings
    let built := (Draft.mk role settings rejected).build cwd
    ((∃ s, built = .ok s) ↔ ∀ c : Constraint, c.Met role settings) ∧
    (∀ vs, built = .error vs → vs = broken.map Prod.snd ∧ vs.Nodup) ∧
    ∀ s, built = .ok s →
      s.role = role ∧ s.settings = settings ∧ s.rejectedTags = rejected ∧ s.Denoted cwd := by
  intro listed broken built
  have hlisted : listed = Constraint.all.map fun c => (c, c.violation settings) := rfl
  have hvs : settings.violations role = broken.map Prod.snd := by
    rw [Constraint.violations_eq]
    simp only [broken, hlisted, List.filter_map, List.map_map]
    rfl
  cases hv : settings.violations role with
  | nil =>
    have hmet : ∀ c : Constraint, c.Met role settings := Constraint.violations_eq_nil_iff.mp hv
    let service : Service := {
      role, settings
      port := (readPort settings.port).getD 0
      dataDir := Files.absolutePath cwd settings.dataDir
      logLevel := (LogLevel.parse? settings.logLevel).getD .info
      rejectedTags := rejected }
    have hbuilt : built = .ok service := by simp only [built, Draft.build, hv, service]
    rw [hbuilt]
    refine ⟨⟨fun _ => hmet, fun _ => ⟨service, rfl⟩⟩, nofun, ?_⟩
    rintro s ⟨⟩
    exact ⟨rfl, rfl, rfl, Service.denoted_of_met hmet rfl rfl rfl⟩
  | cons v rest =>
    have hbuilt : built = .error (v :: rest) := by simp only [built, Draft.build, hv]
    have hnodup := Constraint.nodup_violations role settings
    rw [hv] at hvs hnodup
    rw [hbuilt]
    refine ⟨⟨fun ⟨_, haccepted⟩ => absurd haccepted nofun, fun hmet => ?_⟩, ?_,
      fun _ haccepted => absurd haccepted nofun⟩
    · rw [Constraint.violations_eq_nil_iff.mpr hmet] at hv
      exact absurd hv nofun
    · rintro vs ⟨⟩
      exact ⟨hvs, hnodup⟩

/-- All of them at once. -/
example :
    let settings := { Settings.defaults .device with port := "+80", dataDir := "", tenant := " " }
    Constraint.all.filter (fun c => ¬ c.Met .device settings) =
      [.port, .dataDir, .name, .tenant] := by
  decide

end DeviceFleet
