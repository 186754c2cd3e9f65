import DeviceFleet.Proofs.Settings.Denotation

/-! The texts of ports, control planes and log levels, read up to the white space around them: which
are a port and which port, which are an address, and that white space makes no difference. -/

namespace DeviceFleet

open Text

variable {s t : String} {n : UInt16}

lemma readPort_eq_some_iff_spells :
    readPort s = some n ↔ Decimal.Spells (trimChars s.toList) n.toNat := by
  rw [readPort_eq_some_iff, Decimal.spells_iff]
  constructor
  · rintro ⟨ds, hframed, hne, hdigits, hvalue⟩
    rw [hframed.trimChars_eq fun c hc => dark_of_isDigit (hdigits c hc)]
    exact ⟨hne, hdigits, hvalue⟩
  · rintro ⟨hne, hdigits, hvalue⟩
    exact ⟨_, framed_trimChars _, hne, hdigits, hvalue⟩

lemma readPort_eq_none_iff :
    readPort s = none ↔ ∀ m, Decimal.Spells (trimChars s.toList) m → 65535 < m := by
  constructor
  · intro hnone m hm
    refine Nat.lt_of_not_le fun hle => ?_
    have hsome : readPort s = some (UInt16.ofNat m) := by
      rwa [readPort_eq_some_iff_spells, UInt16.toNat_ofNat_of_lt' (Nat.lt_succ_of_le hle)]
    rw [hnone] at hsome
    cases hsome
  · intro hlarge
    rw [Option.eq_none_iff_forall_ne_some]
    intro n hn
    have hbeyond := hlarge n.toNat (readPort_eq_some_iff_spells.mp hn)
    exact Nat.not_lt.mpr (Nat.le_of_lt_succ n.toNat_lt) hbeyond

/-- The last colon of an address divides its host, which may hold others, from its port. -/
lemma isHostPort_iff_cut : isHostPort s ↔
    ∃ host port n, trimChars s.toList = host ++ ':' :: port ∧ ':' ∉ port ∧ host ≠ [] ∧
      readPort (String.ofList port) = some n ∧ 1 ≤ n.toNat ∧ n.toNat ≤ 65535 := by
  have hrange (n : UInt16) : n ≠ 0 ↔ 1 ≤ n.toNat ∧ n.toNat ≤ 65535 := by
    rw [Nat.one_le_iff_ne_zero, ne_eq, ne_eq, ← UInt16.toNat_inj]
    exact ⟨fun hn => ⟨hn, Nat.le_of_lt_succ n.toNat_lt⟩, And.left⟩
  rw [isHostPort]
  constructor
  · intro h
    split at h
    · next host port hcut =>
      obtain ⟨htrim, hlast⟩ := cutLast_eq_some_iff.mp hcut
      simp only [Bool.and_eq_true, Bool.not_eq_eq_eq_not, Bool.not_true, List.isEmpty_eq_false_iff,
        Option.any_eq_true, decide_eq_true_eq] at h
      obtain ⟨hhost, n, hport, hn⟩ := h
      exact ⟨host, port, n, htrim, hlast, hhost, hport, (hrange n).mp hn⟩
    · cases h
  · rintro ⟨host, port, n, htrim, hlast, hhost, hport, hn⟩
    have hnonzero : n ≠ 0 := (hrange n).mpr hn
    simp [cutLast_eq_some_iff.mpr ⟨htrim, hlast⟩, hhost, hport, hnonzero]

lemma isBlank_host {host port : List Char} (htrim : trimChars s.toList = host ++ ':' :: port)
    (hhost : host ≠ []) : isBlank (String.ofList host) = false := by
  rw [isBlank_eq_false_iff, String.toList_ofList]
  cases host with
  | nil => exact absurd rfl hhost
  | cons c r => exact ⟨c, List.mem_cons_self, dark_of_trimChars_eq_cons htrim⟩

/-- A text is read as a port just if it is, up to white space around it, the decimal digits of the
port after any number of zeros; a run of digits of any length spells one number, and is no port if
that is too large. An address is a host and a port other than zero, with the last colon between them,
and its host is never blank. White space around a port, an address or a log level makes no
difference. -/
theorem texts_read_as_spelled :
    (∀ (s : String) (n : UInt16),
      readPort s = some n ↔ Decimal.Spells (trimChars s.toList) n.toNat) ∧
    (∀ s : String, readPort s = none ↔
      ∀ m, Decimal.Spells (trimChars s.toList) m → 65535 < m) ∧
    (∀ (ds : List Char) (m : Nat), Decimal.Spells ds m ↔
      ds ≠ [] ∧ (∀ c ∈ ds, Decimal.isDigit c) ∧ Decimal.value ds = m) ∧
    (∀ s : String, isHostPort s ↔
      ∃ host port n, trimChars s.toList = host ++ ':' :: port ∧ ':' ∉ port ∧ host ≠ [] ∧
        readPort (String.ofList port) = some n ∧ 1 ≤ n.toNat ∧ n.toNat ≤ 65535) ∧
    (∀ (s : String) (host port : List Char), trimChars s.toList = host ++ ':' :: port →
      host ≠ [] → isBlank (String.ofList host) = false) ∧
    ∀ s t : String, Framed s.toList t.toList →
      readPort t = readPort s ∧ isHostPort t = isHostPort s ∧
        LogLevel.parse? t = LogLevel.parse? s := by
  refine ⟨fun _ _ => readPort_eq_some_iff_spells, fun _ => readPort_eq_none_iff,
    fun _ _ => Decimal.spells_iff, fun _ => isHostPort_iff_cut, fun _ _ _ => isBlank_host,
    fun s t hframed => ?_⟩
  have htrim : trimChars t.toList = trimChars s.toList := hframed.trimChars
  refine ⟨readPort_congr htrim, ?_, ?_⟩
  · rw [isHostPort, isHostPort, htrim]
  · simp only [LogLevel.parse?, htrim]

/-- A port with zeros before it, a bracketed host, and a level, each between white space. -/
theorem texts_read_as_spelled_loopback :
    (Framed "[::1]:0080".toList "\t[::1]:0080 ".toList ∧
      isHostPort "\t[::1]:0080 " = isHostPort "[::1]:0080") ∧
    (trimChars "\t[::1]:0080 ".toList = "[::1]".toList ++ ':' :: "0080".toList ∧
      "[::1]".toList ≠ [] ∧ isBlank (String.ofList "[::1]".toList) = false) ∧
    isHostPort "\t[::1]:0080 " ∧ readPort "0080" = some 80 ∧
    readPort "0000000000000000000065536" = none := by
  obtain ⟨hport, hnone, hspells, haddress, hhost, hwhite⟩ := texts_read_as_spelled
  have hframed : Framed "[::1]:0080".toList "\t[::1]:0080 ".toList :=
    ⟨['\t'], [' '], List.forall_mem_singleton.mpr rfl, List.forall_mem_singleton.mpr rfl, rfl⟩
  have htrim : trimChars "\t[::1]:0080 ".toList = "[::1]".toList ++ ':' :: "0080".toList := by
    decide
  have hread : readPort "0080" = some 80 := (hport _ _).mpr ⟨2, by decide⟩
  refine ⟨⟨hframed, (hwhite _ _ hframed).2.1⟩, ⟨htrim, by decide, hhost _ _ _ htrim (by decide)⟩,
    (haddress _).mpr ⟨_, _, 80, htrim, by decide, by decide, hread, by decide, by decide⟩, hread,
    (hnone _).mpr fun m hm => ?_⟩
  obtain ⟨-, -, hvalue⟩ := (hspells _ m).mp hm
  rw [← hvalue]
  decide

end DeviceFleet
