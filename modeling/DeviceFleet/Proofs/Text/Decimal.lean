import DeviceFleet.Text.Decimal
import Mathlib.Tactic.Lemma

/-! Counts written in decimal digits, and read again. -/

namespace DeviceFleet.Text.Decimal

variable {ds : List Char} {n : Nat} {c : Char}

lemma toNat_of_isDigit (h : isDigit c) : 48 ≤ c.toNat ∧ c.toNat ≤ 57 := by
  simpa [isDigit, Char.le_def, UInt32.le_iff_toNat_le] using h

lemma isDigit_of_mem_digits (h : c ∈ digits n) : isDigit c := by
  have hc := Nat.isDigit_of_mem_toDigits (by decide) (by decide) h
  simpa [isDigit, Char.isDigit, Char.le_def] using hc

lemma value_digits (n : Nat) : value (digits n) = n := Nat.ofDigitChars_ten_toDigits

lemma exists_cons_digits (n : Nat) : ∃ c r, digits n = c :: r ∧ isDigit c := by
  cases hds : digits n with
  | nil => exact absurd hds Nat.toDigits_ne_nil
  | cons c r =>
    exact ⟨c, r, rfl, isDigit_of_mem_digits (n := n) (hds ▸ List.mem_cons_self)⟩

/-- No count is written with a zero before its digits. -/
lemma head?_digits (h : 0 < n) : (digits n).head? ≠ some '0' := by
  induction n using Nat.strongRecOn with
  | ind n ih =>
    by_cases hten : n < 10
    · have hall : ∀ k < 10, 0 < k → (digits k).head? ≠ some '0' := by decide
      exact hall n hten h
    · have hsplit : digits n = digits (n / 10) ++ [(n % 10).digitChar] :=
        Nat.toDigits_of_base_le (by decide) (by omega)
      obtain ⟨c, r, hcr, -⟩ := exists_cons_digits (n / 10)
      have hhead := ih (n / 10) (by omega) (by omega)
      rw [hcr] at hhead
      rw [hsplit, hcr]
      exact hhead

/-- The digits of a number, with any number of zeros before them. -/
def Spells (ds : List Char) (n : Nat) : Prop :=
  ∃ zeros, ds = List.replicate zeros '0' ++ digits n

lemma digits_digit (h : isDigit c) : digits (digit c) = [c] := by
  have hrange := toNat_of_isDigit h
  have hlt : digit c < 10 := by simp [digit]; omega
  rw [digits, Nat.toDigits_of_lt_base hlt, List.singleton_inj, ← Char.toNat_inj,
    Nat.toNat_digitChar_of_lt_ten hlt]
  simp [digit]
  omega

lemma digits_append (hn : 0 < n) (hdigits : ∀ c ∈ ds, isDigit c) :
    digits n ++ ds = digits (ds.foldl (fun n c => 10 * n + digit c) n) := by
  induction ds generalizing n with
  | nil => exact List.append_nil _
  | cons c r ih =>
    have hc : isDigit c := hdigits c List.mem_cons_self
    have hlt : digit c < 10 := by
      have hrange := toNat_of_isDigit hc
      simp [digit]
      omega
    calc digits n ++ c :: r
        = (digits n ++ digits (digit c)) ++ r := by simp [digits_digit hc]
      _ = digits (10 * n + digit c) ++ r :=
        congrArg (· ++ r) (Nat.toDigits_append_toDigits (by decide) hn hlt)
      _ = digits (r.foldl (fun n c => 10 * n + digit c) (10 * n + digit c)) :=
        ih (by omega) fun d hd => hdigits d (List.mem_cons_of_mem c hd)

lemma spells_value (hne : ds ≠ []) (hdigits : ∀ c ∈ ds, isDigit c) : Spells ds (value ds) := by
  induction ds with
  | nil => exact absurd rfl hne
  | cons c r ih =>
    have hrest : ∀ d ∈ r, isDigit d := fun d hd => hdigits d (List.mem_cons_of_mem c hd)
    by_cases hzero : digit c = 0
    -- A zero is one of those before the digits, unless it is the last of all.
    · have hc : c = '0' := by
        have hsingle := digits_digit (hdigits c List.mem_cons_self)
        rw [hzero] at hsingle
        exact (List.singleton_inj.mp hsingle).symm
      subst hc
      by_cases hr : r = []
      · subst hr
        exact ⟨0, rfl⟩
      · obtain ⟨zeros, hzeros⟩ := ih hr hrest
        refine ⟨zeros + 1, ?_⟩
        rw [List.replicate_succ, List.cons_append]
        exact congrArg _ hzeros
    · refine ⟨0, ?_⟩
      have happend := digits_append (Nat.pos_of_ne_zero hzero) hrest
      rw [digits_digit (hdigits c List.mem_cons_self)] at happend
      have hvalue : value (c :: r) = r.foldl (fun n c => 10 * n + digit c) (digit c) := by
        simp [value]
      rw [hvalue, ← happend]
      rfl

lemma value_zeros_append (zeros : Nat) (ds : List Char) :
    value (List.replicate zeros '0' ++ ds) = value ds := by
  induction zeros with
  | zero => rfl
  | succ zeros ih =>
    rw [List.replicate_succ, List.cons_append]
    exact ih

/-- A run of digits spells its value, and no other number. -/
theorem spells_iff : Spells ds n ↔ ds ≠ [] ∧ (∀ c ∈ ds, isDigit c) ∧ value ds = n := by
  constructor
  · rintro ⟨zeros, rfl⟩
    refine ⟨?_, fun c hc => ?_, (value_zeros_append zeros _).trans (value_digits n)⟩
    · obtain ⟨c, r, hcr, -⟩ := exists_cons_digits n
      simp [hcr]
    · rcases List.mem_append.mp hc with hc | hc
      · obtain rfl := List.eq_of_mem_replicate hc
        decide
      · exact isDigit_of_mem_digits hc
  · rintro ⟨hne, hdigits, rfl⟩
    exact spells_value hne hdigits

end DeviceFleet.Text.Decimal
