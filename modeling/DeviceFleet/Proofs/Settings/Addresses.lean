import DeviceFleet.Proofs.Settings.Acceptance

/-! The control plane a device registers. Its address is checked without the white space around it
and around its port, but registered as it was given. -/

namespace DeviceFleet

open Text

variable {d : Draft} {cwd address : String}

/-- A host, a colon and the digits of a port that is not zero, without any white space. -/
def IsAddress (address : String) : Prop :=
  ∃ host port, address = host ++ ":" ++ port ∧ host ≠ "" ∧
    (∀ c ∈ port.toList, Decimal.isDigit c) ∧
    1 ≤ Decimal.value port.toList ∧ Decimal.value port.toList ≤ 65535 ∧
    ∀ c ∈ address.toList, isWhite c = false

namespace HostPortText

lemma isAddress_iff (h : HostPortText address) :
    IsAddress address ↔ ∀ c ∈ address.toList, isWhite c = false := by
  constructor
  · rintro ⟨host, port, -, -, -, -, -, hdark⟩
    exact hdark
  · intro hdark
    obtain ⟨host, port, n, hs, -, ⟨c, hc, -⟩, ⟨ds, hframed, -, hdigits, hvalue⟩, hn⟩ := h
    have hport : port = ds := by
      obtain ⟨before, after, hbefore, hafter, hsplit⟩ := hframed
      rw [String.toList_ofList] at hsplit
      have hempty {w : List Char} (hwhite : ∀ c ∈ w, isWhite c) (hsub : w ⊆ port) : w = [] := by
        rw [List.eq_nil_iff_forall_not_mem]
        intro c hc
        have hcdark := hdark c (by simp [hs, hsub hc])
        simp [hwhite c hc] at hcdark
      have hb : before = [] := hempty hbefore (by simp [hsplit])
      have ha : after = [] := hempty hafter (by simp [hsplit])
      simpa [hb, ha] using hsplit
    refine ⟨String.ofList host, String.ofList port, ?_, ?_, ?_, ?_, ?_, hdark⟩
    · rw [← String.toList_inj, hs]
      simp
    · simpa using List.ne_nil_of_mem hc
    · rw [String.toList_ofList, hport]
      exact hdigits
    · rw [String.toList_ofList, hport, hvalue]
      exact Nat.one_le_iff_ne_zero.mpr fun hzero => hn (UInt16.toNat_inj.mp hzero)
    · rw [String.toList_ofList, hport, hvalue]
      exact Nat.le_of_lt_succ n.toNat_lt

end HostPortText

namespace Draft

lemma exists_build_of_met (h : ∀ c : Constraint, c.Met d.role d.settings) :
    ∃ s, d.build cwd = .ok s := by
  rw [build, Constraint.violations_eq_nil_iff.mpr h]
  exact ⟨_, rfl⟩

/-- Another address takes the place of the one in accepted settings if it is one that is accepted. -/
lemma exists_build_write_iff (h : ∀ c : Constraint, c.Met d.role d.settings) :
    (∃ s, (d.write (.controlPlane address)).build cwd = .ok s) ↔ HostPortText address := by
  constructor
  · rintro ⟨s, hs⟩
    obtain ⟨-, hsettings, hmet⟩ := accepted_of_build hs
    exact hmet .controlPlane address (by rw [hsettings]; rfl)
  · intro haddress
    apply exists_build_of_met
    intro c
    cases c with
    | controlPlane =>
      rintro text ⟨⟩
      exact haddress
    | port => exact h .port
    | dataDir => exact h .dataDir
    | logLevel => exact h .logLevel
    | name => exact h .name
    | tenant => exact h .tenant
    | shutdownTimeout => exact h .shutdownTimeout
    | heartbeatInterval => exact h .heartbeatInterval
    | metricsAddress => exact h .metricsAddress

/-- An accepted device registers the very address it was given. That is a host that is not blank, a
colon, and the digits of a port between white space, and each such text is accepted; but an address
is it only if there is no white space at all. -/
theorem address_registered_as_given {s : Service} (h : d.build cwd = .ok s)
    (hrole : d.role = .device) :
    (∃ own, s.deviceRecord? = some own ∧ own.controlPlane = d.settings.controlPlane ∧
      ∀ address, own.controlPlane = some address →
        HostPortText address ∧
        (IsAddress address ↔ ∀ c ∈ address.toList, isWhite c = false)) ∧
    ∀ address, (∃ s', (d.write (.controlPlane address)).build cwd = .ok s') ↔
      HostPortText address := by
  obtain ⟨hsame, hsettings, hmet⟩ := accepted_of_build h
  obtain ⟨name, own, -, hown, -, -, hplane⟩ := exists_deviceRecord? h (hsame.trans hrole)
  rw [hsettings] at hplane
  refine ⟨⟨own, hown, hplane, fun address haddress => ?_⟩, fun address => ?_⟩
  · have hshape : HostPortText address :=
      hmet .controlPlane address (by rw [hsettings, ← hplane, haddress])
    exact ⟨hshape, hshape.isAddress_iff⟩
  · rw [hsame, hsettings] at hmet
    exact exists_build_write_iff hmet

theorem address_registered_as_given_dev :
    let d := ((Draft.new .device).write (.name "dev-1")).write (.controlPlane "central:8080")
    ∃ s own, d.build "/" = .ok s ∧ s.deviceRecord? = some own ∧
      own.controlPlane = some "central:8080" ∧ IsAddress "central:8080" := by
  intro d
  have hmet : ∀ c : Constraint, c.Met d.role d.settings := fun c => by cases c <;> decide
  obtain ⟨s, hs⟩ : ∃ s, d.build "/" = .ok s := exists_build_of_met hmet
  obtain ⟨⟨own, hown, hplane, hall⟩, -⟩ := address_registered_as_given hs rfl
  have hdark : "central:8080".toList.all fun c => !isWhite c := by decide
  refine ⟨s, own, hs, hown, hplane, (hall _ hplane).2.mpr fun c hc => ?_⟩
  simpa using List.all_eq_true.mp hdark c hc

/-- The white space before an address is passed over in the check, and registered. -/
theorem blank_registered :
    let d := ((Draft.new .device).write (.name "dev-1")).write (.controlPlane " central:8080")
    ∃ s own, d.build "/" = .ok s ∧ s.deviceRecord? = some own ∧
      own.controlPlane = some " central:8080" ∧ ¬ IsAddress " central:8080" := by
  refine ⟨_, _, rfl, rfl, rfl, ?_⟩
  rintro ⟨host, port, -, -, -, -, -, hdark⟩
  exact absurd (hdark ' ' (by decide)) (by decide)

end Draft
end DeviceFleet
