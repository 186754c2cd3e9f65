import DeviceFleet.Proofs.Text.Decimal
import DeviceFleet.Proofs.Text.Trimming
import DeviceFleet.Settings.LogLevel
import DeviceFleet.Settings.Port

/-! What the texts of settings denote: a port, a log level, or a host with its port. The readers
accept the texts that denote something, and no others. -/

namespace DeviceFleet

/-- Decimal digits between white space, with the value of a port. -/
def PortText (s : String) (n : UInt16) : Prop :=
  ∃ ds, Text.Framed ds s.toList ∧ ds ≠ [] ∧ (∀ c ∈ ds, Text.Decimal.isDigit c) ∧
    Text.Decimal.value ds = n.toNat

/-- The name of a level between white space, its letters of either case. -/
def LevelText (s : String) (l : LogLevel) : Prop :=
  ∃ word, Text.Framed word s.toList ∧ word.map Char.toLower = l.name.toList

/-- A host that is not blank, a colon, and a port other than zero. -/
def HostPortText (s : String) : Prop :=
  ∃ host port n, s.toList = host ++ ':' :: port ∧ ':' ∉ port ∧
    (∃ c ∈ host, Text.isWhite c = false) ∧ PortText (String.ofList port) n ∧ n ≠ 0

lemma dark_of_isDigit {c : Char} (h : Text.Decimal.isDigit c) : Text.isWhite c = false := by
  have hrange := Text.Decimal.toNat_of_isDigit h
  exact Text.isWhite_of_visible (by omega)

/-- No capital letter is white. -/
lemma toLower_of_isWhite {c : Char} (h : Text.isWhite c) : c.toLower = c := by
  apply dif_neg
  intro hletter
  have hrange : 65 ≤ c.toNat ∧ c.toNat ≤ 90 := by
    simpa [UInt32.le_iff_toNat_le] using hletter
  simp [Text.isWhite_of_visible (c := c) (by omega)] at h

lemma readPort_congr {s t : String} (h : Text.trimChars s.toList = Text.trimChars t.toList) :
    readPort s = readPort t := by
  simp only [readPort, h]

theorem readPort_eq_some_iff {s : String} {n : UInt16} : readPort s = some n ↔ PortText s n := by
  constructor
  · intro h
    rw [readPort] at h
    split at h
    · exact absurd h nofun
    · next hds =>
      split at h
      · next hsize =>
        simp only [Bool.or_eq_true, not_or, Bool.not_eq_true, Bool.not_eq_false',
          List.isEmpty_eq_false_iff, List.all_eq_true] at hds
        refine ⟨_, Text.framed_trimChars _, hds.1, hds.2, ?_⟩
        rw [← Option.some.inj h, UInt16.toNat_ofNat_of_lt' hsize]
      · exact absurd h nofun
  · rintro ⟨ds, hframed, hne, hdigits, hvalue⟩
    have htrim := hframed.trimChars_eq fun c hc => dark_of_isDigit (hdigits c hc)
    have hsize : Text.Decimal.value ds < UInt16.size := hvalue ▸ n.toNat_lt
    have hread : (ds.isEmpty || !ds.all Text.Decimal.isDigit) = false := by
      simpa [hne] using hdigits
    simp only [readPort, htrim, hread, hsize]
    simp [hvalue]

lemma PortText.exists_dark {s : String} {n : UInt16} (h : PortText s n) :
    ∃ c ∈ s.toList, Text.isWhite c = false := by
  obtain ⟨ds, ⟨before, after, _, _, hs⟩, hne, hdigits, _⟩ := h
  obtain ⟨c, hc⟩ := List.exists_mem_of_ne_nil ds hne
  exact ⟨c, by simp [hs, hc], dark_of_isDigit (hdigits c hc)⟩

lemma LogLevel.dark_of_mem_name {l : LogLevel} {c : Char} (h : c ∈ l.name.toList) :
    Text.isWhite c = false := by
  have hdark : l.name.toList.all (fun c => !Text.isWhite c) = true := by
    cases l <;> decide
  simpa using List.all_eq_true.mp hdark c h

theorem LogLevel.parse?_eq_some_iff {s : String} {l : LogLevel} :
    LogLevel.parse? s = some l ↔ LevelText s l := by
  constructor
  · intro h
    exact ⟨_, Text.framed_trimChars _, by simpa using List.find?_some h⟩
  · rintro ⟨word, hframed, hword⟩
    have hdark : ∀ c ∈ word, Text.isWhite c = false := by
      intro c hc
      rw [Bool.eq_false_iff]
      intro hwhite
      have hmem : c ∈ l.name.toList := by
        rw [← hword, ← toLower_of_isWhite hwhite]
        exact List.mem_map_of_mem hc
      simp [dark_of_mem_name hmem] at hwhite
    have htrim := hframed.trimChars_eq hdark
    rw [parse?, htrim, hword]
    cases l <;> decide

theorem isHostPort_iff {s : String} : isHostPort s ↔ HostPortText s := by
  have hcolon : Text.isWhite ':' = false := by decide
  constructor
  · intro h
    rw [isHostPort] at h
    split at h
    · next host port hcut =>
      obtain ⟨htrim, hlast⟩ := Text.cutLast_eq_some_iff.mp hcut
      simp only [Bool.and_eq_true, Bool.not_eq_eq_eq_not, Bool.not_true, List.isEmpty_eq_false_iff,
        Option.any_eq_true, decide_eq_true_eq] at h
      obtain ⟨hhost, n, hport, hn⟩ := h
      obtain ⟨before, after, _, hafter, hs⟩ := Text.framed_trimChars s.toList
      refine ⟨before ++ host, port ++ after, n, ?_, ?_, ?_, ?_, hn⟩
      · rw [hs, htrim]
        simp
      · rw [List.mem_append, not_or]
        exact ⟨hlast, fun hmem => by simp [hafter _ hmem] at hcolon⟩
      · cases host with
        | nil => exact absurd rfl hhost
        | cons c rest => exact ⟨c, by simp, Text.dark_of_trimChars_eq_cons htrim⟩
      · have hframed : Text.Framed port (port ++ after) := ⟨[], after, nofun, hafter, rfl⟩
        rw [← readPort_eq_some_iff, ← hport]
        apply readPort_congr
        simpa using hframed.trimChars
    · exact absurd h nofun
  · rintro ⟨host, port, n, hs, hlast, hhost, hport, hn⟩
    obtain ⟨after, hafter, hend⟩ := Text.exists_after_trimEnd port
    have hdark : ∃ c ∈ port, Text.isWhite c = false := by simpa using hport.exists_dark
    have htrim : Text.trimChars s.toList = Text.trimStart host ++ ':' :: Text.trimEnd port := by
      rw [hs, Text.trimChars_append_of_dark hhost ⟨':', by simp, hcolon⟩]
      exact congrArg _ (Text.trimEnd_append_of_dark [':'] hdark)
    have hcut : Text.cutLast ':' (Text.trimChars s.toList) =
        some (Text.trimStart host, Text.trimEnd port) := by
      rw [htrim, Text.cutLast_eq_some_iff]
      refine ⟨rfl, fun hmem => hlast ?_⟩
      rw [hend]
      exact List.mem_append_left _ hmem
    have hne : Text.trimStart host ≠ [] := by
      obtain ⟨c, hc, hdark⟩ := hhost
      rw [Text.trimStart, ne_eq, List.dropWhile_eq_nil_iff]
      intro hwhite
      simp [hwhite c hc] at hdark
    have hframed : Text.Framed (Text.trimEnd port) port := ⟨[], after, nofun, hafter, by simpa⟩
    have hread : readPort (String.ofList (Text.trimEnd port)) = some n := by
      rw [← readPort_eq_some_iff.mpr hport]
      apply readPort_congr
      simpa using hframed.trimChars.symm
    simp [isHostPort, hcut, hne, hread, hn]

end DeviceFleet
