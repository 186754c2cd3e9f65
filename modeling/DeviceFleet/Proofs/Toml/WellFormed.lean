import DeviceFleet.Proofs.Toml.Tables
import DeviceFleet.Toml.Parser

/-! A text that is read gives a well-formed document. -/

namespace DeviceFleet.Toml

section Outcomes

variable {α β : Type} {p : α → Prop} {q : β → Prop} {s : Rest} {a : α}

/-- Whatever is read has a property. -/
def Yields (p : α → Prop) (x : Outcome α) : Prop := ∀ a, x = .ok a → p a

@[simp] lemma yields_ok : Yields p (.ok a) ↔ p a :=
  ⟨fun h => h a rfl, fun h _ ha => Except.ok.inj ha ▸ h⟩

@[simp] lemma yields_error {f : Fault} : Yields p (.error f) := nofun

@[simp] lemma yields_refuse : Yields p (refuse s) := nofun

@[simp] lemma yields_fail : Yields p (fail s) := nofun

@[simp] lemma yields_commit {x : Outcome α} : Yields p (commit x) ↔ Yields p x := by
  cases x <;> simp [commit]

@[simp] lemma yields_backTo {x : Outcome α} : Yields p (backTo s x) ↔ Yields p x := by
  cases x <;> simp [backTo]

lemma Yields.bind {x : Outcome β} {f : β → Outcome α} (hx : Yields q x)
    (hf : ∀ b, q b → Yields p (f b)) : Yields p (x >>= f) := by
  cases x with
  | error e => exact yields_error
  | ok b => exact hf b (hx b rfl)

lemma yields_bind {x : Outcome β} {f : β → Outcome α} (hf : ∀ b, Yields p (f b)) :
    Yields p (x >>= f) :=
  Yields.bind (q := fun _ => True) (fun _ _ => trivial) fun b _ => hf b

end Outcomes

section Scalars

variable (s : List Char)

lemma boolean_sound : Yields (·.1.Sound) (boolean s) := by
  rw [boolean]
  split
  · exact yields_ok.mpr (.boolean true)
  · split
    · exact yields_ok.mpr (.boolean false)
    · exact yields_fail

lemma moment_sound : Yields (·.1.Sound) (moment s) := by
  rw [moment, yields_commit]
  split
  · exact yields_bind fun _ => yields_ok.mpr (.moment _)
  · exact yields_bind fun _ => yields_bind fun _ => yields_ok.mpr (.moment _)

lemma bounded_sound (n : Int) (r : Rest) :
    Yields (·.1.Sound) (if withinLong n then .ok (Value.integer n, r) else fail s) := by
  split
  · next h => exact yields_ok.mpr (.integer h)
  · exact yields_fail

lemma basedInteger_sound (base : Nat) : Yields (·.1.Sound) (basedInteger base s) :=
  yields_bind fun _ => bounded_sound s _ _

lemma integer_sound : Yields (·.1.Sound) (integer s) := by
  unfold integer
  split
  · exact basedInteger_sound _ 16
  · exact basedInteger_sound _ 8
  · exact basedInteger_sound _ 2
  · exact yields_bind fun _ => bounded_sound s _ _

lemma specialNumber_sound : Yields (·.1.Sound) (specialNumber s) := by
  unfold specialNumber
  obtain ⟨negative, t⟩ := sign s
  dsimp only
  split
  · exact yields_ok.mpr (.number (.infinite negative))
  · split
    · exact yields_ok.mpr (.number .nan)
    · exact yields_refuse

lemma decimal_sound : Yields (·.1.Sound) (decimal s) := by
  unfold decimal
  obtain ⟨negative, t⟩ := sign s
  refine yields_bind fun whole => yields_bind fun frac => yields_bind fun exp => ?_
  dsimp only
  split
  · exact yields_fail
  · exact yields_ok.mpr (.number _)

lemma number_sound : Yields (·.1.Sound) (number s) := by
  rw [number]
  split
  · exact specialNumber_sound s
  · exact specialNumber_sound s
  · split
    · exact decimal_sound s
    · exact integer_sound s

lemma scalar_sound : Yields (·.1.Sound) (scalar s) := by
  unfold scalar
  split
  · exact yields_refuse
  · split
    · exact yields_bind fun _ => yields_ok.mpr (.text _)
    split
    · exact boolean_sound _
    split
    · exact moment_sound _
    split
    · exact number_sound _
    · exact yields_refuse

end Scalars

section Values

def Pair.Sound (p : Pair) : Prop := p.value.Sound

lemma putAll_sound {ps : List Pair} {t u : Tree} (hps : ∀ p ∈ ps, p.Sound) (ht : t.Sound)
    (h : putAll ps t = some u) : u.Sound := by
  induction ps generalizing t with
  | nil =>
    rw [← Option.some.inj h]
    exact ht
  | cons p ps ih =>
    obtain ⟨t, hput, h⟩ := Option.bind_eq_some_iff.mp h
    have hp : p.Sound := hps p List.mem_cons_self
    exact ih (fun q hq => hps q (List.mem_cons_of_mem p hq)) (Tree.sound_put ht hp hput) h

/-- The readers of values, of items and of pairs call each other, so they are sound together. -/
lemma readers_sound (size fuel : Nat) : ∀ (depth : Nat) (s : List Char),
    Yields (·.1.Sound) (value size depth fuel s) ∧
    Yields (∀ v ∈ ·.1, v.Sound) (items size depth fuel s) ∧
    Yields (∀ p ∈ ·.1, p.Sound) (pairs size depth fuel s) := by
  induction fuel with
  | zero => exact fun depth s => ⟨yields_fail, yields_fail, yields_fail⟩
  | succ fuel ih =>
    intro depth s
    refine ⟨?_, ?_, ?_⟩
    · unfold value
      split
      · split
        · exact yields_fail
        · exact (ih _ _).2.1.bind fun vs hvs => yields_ok.mpr (.array hvs)
      · split
        · exact yields_fail
        · refine (ih _ _).2.2.bind fun ps hps => ?_
          dsimp only
          split
          · next tree htree =>
            refine yields_bind fun _ => yields_ok.mpr ?_
            exact putAll_sound hps Tree.sound_nil htree
          · exact yields_fail
      · exact scalar_sound _
    · unfold items
      refine yields_bind fun start => ?_
      split
      · exact yields_ok.mpr nofun
      · refine Yields.bind (q := fun p => p.1.Sound) (yields_backTo.mpr ?_) fun v hv => ?_
        · exact (ih _ _).1.bind fun v hv => yields_bind fun r => yields_ok.mpr hv
        dsimp only
        split
        · exact yields_ok.mpr (by simpa using hv)
        · exact (ih _ _).2.1.bind fun vs hvs => yields_ok.mpr (List.forall_mem_cons.mpr ⟨hv, hvs⟩)
        · exact yields_fail
    · unfold pairs
      split
      · split
        · exact yields_error
        · exact yields_ok.mpr nofun
      · refine yields_bind fun _ => (yields_commit.mpr (ih _ _).1).bind fun v hv => ?_
        dsimp only
        split
        · exact (ih _ _).2.2.bind fun ps hps => yields_ok.mpr (List.forall_mem_cons.mpr ⟨hv, hps⟩)
        · exact yields_ok.mpr (by simpa [Pair.Sound] using hv)

end Values

section Statements

def Statement.Sound : Statement → Prop
  | .pair p => p.Sound
  | .header _ _ => True
  | .listHeader _ _ => True

lemma pairStatement_sound (size : Nat) (s : List Char) :
    Yields (·.1.Sound) (pairStatement size s) := by
  refine yields_bind fun _ => yields_bind fun _ => ?_
  refine (readers_sound _ _ _ _).1.bind fun v hv => yields_bind fun _ => yields_ok.mpr ?_
  exact hv

lemma headerStatement_sound (size : Nat) (s : List Char) :
    Yields (·.1.Sound) (headerStatement size s) := by
  unfold headerStatement
  split
  · refine yields_bind fun _ => ?_
    dsimp only
    split
    · exact yields_bind fun _ => yields_ok.mpr trivial
    · exact yields_fail
  · exact yields_bind fun _ => yields_bind fun _ => yields_bind fun _ => yields_ok.mpr trivial
  · exact yields_fail

variable {b c : Builder}

lemma Builder.Sound.take {st : Statement} (hb : b.Sound) (hst : st.Sound) (h : b.take st = some c) :
    c.Sound := by
  cases st with
  | pair p => exact hb.put hst h
  | header k place => exact hb.openTable h
  | listHeader k place => exact hb.openItem h

lemma statements_sound (size fuel : Nat) (hb : b.Sound) (s : List Char) :
    Yields Tree.Sound (statements size fuel b s) := by
  induction fuel generalizing b s with
  | zero => exact yields_fail
  | succ fuel ih =>
    unfold statements
    split
    · split
      · next h => exact yields_ok.mpr (hb.close h)
      · exact yields_fail
    · next c r hs =>
      split
      · exact ih hb _
      · have hread : Yields (·.1.Sound)
            ((if c = '[' then headerStatement else pairStatement) size (c :: r)) := by
          split
          · exact headerStatement_sound _ _
          · exact pairStatement_sound _ _
        refine hread.bind fun st hst => ?_
        dsimp only
        split
        · next h => exact ih (hb.take hst h) _
        · exact yields_fail

theorem wellFormed_of_parse {text : String} {d : Document} (h : parse text = .ok d) :
    WellFormed d := by
  unfold parse at h
  dsimp only at h
  split at h
  · next tree htree =>
    rw [← Except.ok.inj h]
    exact statements_sound _ _ Builder.sound_empty _ tree htree
  · cases h

end Statements

end DeviceFleet.Toml
