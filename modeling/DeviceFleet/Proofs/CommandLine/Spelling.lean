import DeviceFleet.CommandLine.Given
import DeviceFleet.Proofs.Text.Trimming

/-! The ways to write a flag with its value. A command line is accepted if, and only if, it is one flag
after another, each written in one of these ways, and their values are taken one by one. -/

namespace DeviceFleet.CommandLine

abbrev Item := Flag × String

/-- The word of a flag whose value stands in the next one. -/
inductive Bare (f : Flag) : String → Prop
  | long : Bare f ("--" ++ f.long)
  | short {c : Char} : f.short? = some c → Bare f (String.ofList ['-', c])

/-- The word of a flag that has its value in it. -/
inductive Joined (f : Flag) (v : String) : String → Prop
  | long : Joined f v ("--" ++ f.long ++ "=" ++ v)
  | short {c : Char} : f.short? = some c → Joined f v (String.ofList ('-' :: c :: '=' :: v.toList))
  | close {c d : Char} {rest : List Char} : f.short? = some c → v.toList = d :: rest → d ≠ '=' →
      Joined f v (String.ofList ('-' :: c :: v.toList))

/-- A word that is not taken for a flag. -/
def StandsApart (word : String) : Prop := ∀ c rest, word.toList ≠ '-' :: c :: rest

inductive Spelled (f : Flag) (v : String) : List String → Prop
  | apart {word : String} : Bare f word → StandsApart v → Spelled f v [word, v]
  | joined {word : String} : Joined f v word → Spelled f v [word]

/-- A command line, which may end with a word of two dashes. -/
inductive Line (role : Role) : List Item → List String → Prop
  | nil : Line role [] []
  | dashes : Line role [] ["--"]
  | cons {f : Flag} {v : String} {ws words : List String} {items : List Item} :
      f.isKnownTo role = true → Spelled f v ws → Line role items words →
      Line role ((f, v) :: items) (ws ++ words)

variable {role : Role} {f : Flag} {c : Char} {name v word : String} {s t : State}

lemma standsApart_of_head? (h : v.toList.head? ≠ some '-') : StandsApart v :=
  fun _ _ hword => h (congrArg List.head? hword)

section Flags

lemma Flag.ofLong?_eq_some_iff :
    Flag.ofLong? role name = some f ↔ f.isKnownTo role = true ∧ f.long = name := by
  constructor
  · intro h
    simpa using List.find?_some h
  · rintro ⟨hknown, rfl⟩
    cases role <;> cases f <;> first | decide | cases hknown

lemma Flag.ofShort?_eq_some_iff :
    Flag.ofShort? role c = some f ↔ f.isKnownTo role = true ∧ f.short? = some c := by
  constructor
  · intro h
    simpa using List.find?_some h
  · rintro ⟨hknown, hshort⟩
    cases f with
    | config | port | name =>
      obtain rfl := Option.some.inj hshort
      cases role <;> first | decide | cases hknown
    | _ => cases hshort

lemma Flag.equals_not_mem_long (f : Flag) : '=' ∉ f.long.toList := by
  cases f <;> decide

lemma Flag.long_ne_nil (f : Flag) : f.long.toList ≠ [] := by
  cases f <;> decide

lemma Flag.dash_ne_short (h : f.short? = some c) : c ≠ '-' := by
  rintro rfl
  cases f <;> cases h

lemma Switch.ofLong?_long (f : Flag) : Switch.ofLong? f.long = none := by
  cases f <;> decide

lemma Switch.ofShort?_short (h : f.short? = some c) : Switch.ofShort? c = none := by
  cases f with
  | config | port | name =>
    obtain rfl := Option.some.inj h
    decide
  | _ => cases h

end Flags

namespace State

lemma step_long {r : List Char} (hs : s.dashed = false) (hr : r ≠ [])
    (hword : word.toList = '-' :: '-' :: r) : s.step role word = s.longWord role r := by
  cases r with
  | nil => exact absurd rfl hr
  | cons c r => simp [step, hs, hword]

lemma step_short {rest : List Char} (hs : s.dashed = false) (hc : c ≠ '-')
    (hword : word.toList = '-' :: c :: rest) : s.step role word = s.shortWord role c rest := by
  have hne (r : List Char) : '-' :: c :: rest ≠ '-' :: '-' :: r :=
    fun heq => hc (List.cons.inj (List.cons.inj heq).2).1
  rw [step, hs, hword]
  split
  · contradiction
  · split
    · next heq => exact absurd heq (hne [])
    · next r _ heq => exact absurd heq (hne r)
    · next heq =>
      obtain ⟨rfl, rfl⟩ := List.cons.inj (List.cons.inj heq).2
      rfl
    · next hplain => exact absurd rfl (hplain c rest)

lemma step_apart (hs : s.dashed = false) (h : StandsApart word) :
    s.step role word = s.plainWord word := by
  rw [step, hs]
  split
  · contradiction
  · split
    · exact absurd ‹_› (h _ _)
    · exact absurd ‹_› (h _ _)
    · exact absurd ‹_› (h _ _)
    · rfl

lemma longWord_alone (hf : f.isKnownTo role = true) (s : State) :
    s.longWord role f.long.toList = s.flag f none := by
  have hcut : Text.cutFirst '=' f.long.toList = none := by
    cases h : Text.cutFirst '=' f.long.toList with
    | none => rfl
    | some parts =>
      have hparts := (Text.cutFirst_eq_some_iff.mp h).1
      exact absurd (hparts ▸ by simp) f.equals_not_mem_long
  simp only [longWord, hcut, String.ofList_toList, Switch.ofLong?_long,
    Flag.ofLong?_eq_some_iff.mpr ⟨hf, rfl⟩]
  rfl

lemma longWord_joined (hf : f.isKnownTo role = true) (value : List Char) (s : State) :
    s.longWord role (f.long.toList ++ '=' :: value) = s.flag f (some (String.ofList value)) := by
  have hcut : Text.cutFirst '=' (f.long.toList ++ '=' :: value) = some (f.long.toList, value) :=
    Text.cutFirst_eq_some_iff.mpr ⟨rfl, f.equals_not_mem_long⟩
  simp only [longWord, hcut, String.ofList_toList, Switch.ofLong?_long,
    Flag.ofLong?_eq_some_iff.mpr ⟨hf, rfl⟩]
  rfl

lemma shortWord_of_short (hf : f.isKnownTo role = true) (hc : f.short? = some c)
    (rest : List Char) (s : State) :
    s.shortWord role c rest = s.flag f (attachedValue rest) := by
  simp only [shortWord, Switch.ofShort?_short hc, Flag.ofShort?_eq_some_iff.mpr ⟨hf, hc⟩]

lemma attachedValue_of_ne {d : Char} {rest : List Char} (hd : d ≠ '=') :
    attachedValue (d :: rest) = some (String.ofList (d :: rest)) := by
  rw [attachedValue.eq_def]
  split
  · contradiction
  · next heq => exact absurd (List.cons.inj heq).1 hd
  · rfl

lemma step_bare (hs : s.dashed = false) (hf : f.isKnownTo role = true) (h : Bare f word) :
    s.step role word = s.flag f none := by
  cases h with
  | long => rw [step_long hs f.long_ne_nil (by simp), longWord_alone hf]
  | short hc =>
    rw [step_short hs (Flag.dash_ne_short hc) String.toList_ofList, shortWord_of_short hf hc]
    rfl

lemma step_joined (hs : s.dashed = false) (hf : f.isKnownTo role = true) (h : Joined f v word) :
    s.step role word = s.flag f (some v) := by
  cases h with
  | long =>
    rw [step_long hs (r := f.long.toList ++ '=' :: v.toList) (by simp) (by simp),
      longWord_joined hf, String.ofList_toList]
  | short hc =>
    rw [step_short hs (Flag.dash_ne_short hc) String.toList_ofList, shortWord_of_short hf hc,
      attachedValue, String.ofList_toList]
  | close hc hv hd =>
    rw [step_short hs (Flag.dash_ne_short hc) String.toList_ofList, shortWord_of_short hf hc, hv,
      attachedValue_of_ne hd, ← hv, String.ofList_toList]

/-- All that a word can be taken for. -/
inductive Taken (role : Role) (s : State) (word : String) : State → Prop
  | dashes : word = "--" → Taken role s word { s with dashed := true }
  | bare {f : Flag} {t : State} : f.isKnownTo role = true → Bare f word →
      s.flag f none = .ok t → Taken role s word t
  | joined {f : Flag} {v : String} {t : State} : f.isKnownTo role = true → Joined f v word →
      s.flag f (some v) = .ok t → Taken role s word t
  | apart {t : State} : StandsApart word → s.plainWord word = .ok t → Taken role s word t

lemma ask_ne_ok (w : Switch) (s t : State) : s.ask w ≠ .ok t := by
  intro h
  rw [ask] at h
  cases hsettle : s.settle <;> rw [hsettle] at h <;> cases h

lemma taken_of_longWord {r : List Char} (hword : word.toList = '-' :: '-' :: r)
    (h : s.longWord role r = .ok t) : Taken role s word t := by
  rw [longWord] at h
  cases hcut : Text.cutFirst '=' r with
  | none =>
    rw [hcut] at h
    dsimp only at h
    cases hw : Switch.ofLong? (String.ofList r) with
    | some w =>
      rw [hw] at h
      exact absurd h (ask_ne_ok w s t)
    | none =>
      rw [hw] at h
      cases hf : Flag.ofLong? role (String.ofList r) with
      | none =>
        rw [hf] at h
        cases h
      | some f =>
        rw [hf] at h
        obtain ⟨hknown, hlong⟩ := Flag.ofLong?_eq_some_iff.mp hf
        obtain rfl : word = "--" ++ f.long := by
          rw [← String.toList_inj, hword, hlong]
          simp
        exact .bare hknown .long h
  | some parts =>
    obtain ⟨name, value⟩ := parts
    rw [hcut] at h
    dsimp only at h
    cases hw : Switch.ofLong? (String.ofList name) with
    | some w =>
      rw [hw] at h
      cases h
    | none =>
      rw [hw] at h
      cases hf : Flag.ofLong? role (String.ofList name) with
      | none =>
        rw [hf] at h
        cases h
      | some f =>
        rw [hf] at h
        obtain ⟨hknown, hlong⟩ := Flag.ofLong?_eq_some_iff.mp hf
        obtain rfl : word = "--" ++ f.long ++ "=" ++ String.ofList value := by
          rw [← String.toList_inj, hword, hlong, (Text.cutFirst_eq_some_iff.mp hcut).1]
          simp
        exact .joined hknown .long h

lemma taken_of_shortWord {rest : List Char} (hword : word.toList = '-' :: c :: rest)
    (h : s.shortWord role c rest = .ok t) : Taken role s word t := by
  rw [shortWord] at h
  cases hw : Switch.ofShort? c with
  | some w =>
    rw [hw] at h
    exact absurd h (ask_ne_ok w s t)
  | none =>
    rw [hw] at h
    cases hf : Flag.ofShort? role c with
    | none =>
      rw [hf] at h
      cases h
    | some f =>
      rw [hf] at h
      obtain ⟨hknown, hshort⟩ := Flag.ofShort?_eq_some_iff.mp hf
      have hword : word = String.ofList ('-' :: c :: rest) := by
        rw [← hword, String.ofList_toList]
      subst hword
      cases rest with
      | nil => exact .bare hknown (.short hshort) h
      | cons d rest =>
        by_cases hd : d = '='
        · subst hd
          exact .joined hknown (by simpa using Joined.short (v := String.ofList rest) hshort) h
        · rw [attachedValue_of_ne hd] at h
          exact .joined hknown (by
            simpa using Joined.close (v := String.ofList (d :: rest)) hshort String.toList_ofList hd) h

lemma taken_of_step (hs : s.dashed = false) (h : s.step role word = .ok t) :
    Taken role s word t := by
  rw [step, hs] at h
  split at h
  · contradiction
  · split at h
    · next hword =>
      obtain rfl := Except.ok.inj h
      exact .dashes (String.toList_inj.mp (hword.trans (by decide)))
    · next hword => exact taken_of_longWord hword h
    · next hword => exact taken_of_shortWord hword h
    · next hplain => exact .apart hplain h

/-- The rest of a command line, and its end. -/
def finish (role : Role) (words : List String) (s : State) : Except Stop Given := do
  let t ← words.foldlM (step role) s
  let t ← t.settle
  .ok t.given

def takeAll (items : List Item) (s : State) : Except Stop Given := do
  let t ← items.foldlM (fun t i => t.take i.1 i.2) s
  .ok t.given

lemma finish_cons (role : Role) (word : String) (words : List String) (s : State) :
    finish role (word :: words) s = s.step role word >>= finish role words := by
  rw [finish, List.foldlM_cons, bind_assoc]
  rfl

lemma takeAll_cons (i : Item) (items : List Item) (s : State) :
    takeAll (i :: items) s = s.take i.1 i.2 >>= takeAll items := by
  rw [takeAll, List.foldlM_cons, bind_assoc]
  rfl

lemma take_eq_ok (h : s.take f v = .ok t) : (s.given.lookup f).isSome = false ∧
    ∃ a, f.read v = .ok a ∧ t = { s with given := s.given ++ [(f, a)] } := by
  rw [take] at h
  split at h
  · cases h
  · next hfree =>
    refine ⟨Bool.eq_false_iff.mpr hfree, ?_⟩
    split at h
    · next a ha => exact ⟨a, ha, (Except.ok.inj h).symm⟩
    · cases h
    · cases h

/-- A state that reads on as if its last value had been taken. -/
structure Ready (s : State) : Prop where
  dashed : s.dashed = false
  pending : ∀ f, s.pending ≠ some ⟨f, none⟩

lemma settle_eq_ok (h : s.settle = .ok t) : t.pending = none ∧ t.dashed = s.dashed := by
  rw [settle] at h
  split at h
  · next hnone =>
    obtain rfl := Except.ok.inj h
    exact ⟨hnone, rfl⟩
  · cases h
  · obtain ⟨_, a, _, rfl⟩ := take_eq_ok h
    exact ⟨rfl, rfl⟩

lemma settle_of_none (h : s.pending = none) : s.settle = .ok s := by
  rw [settle, h]

lemma ready_of_none (hdashed : s.dashed = false) (h : s.pending = none) : s.Ready :=
  ⟨hdashed, by simp [h]⟩

lemma settle_of_some (h : t.pending = none) :
    ({ t with pending := some ⟨f, some v⟩ } : State).settle = t.take f v := by
  obtain ⟨given, pending, dashed⟩ := t
  obtain rfl : pending = none := h
  rfl

lemma step_dashes (hs : s.dashed = false) :
    s.step role "--" = .ok { s with dashed := true } := by
  rw [step, hs]
  rfl

lemma finish_dashed (role : Role) (s : State) :
    finish role [] { s with dashed := true } = finish role [] s := by
  obtain ⟨given, pending, dashed⟩ := s
  change settle _ >>= (fun t => .ok t.given) = settle _ >>= fun t => .ok t.given
  cases pending with
  | none => rfl
  | some p =>
    obtain ⟨f, value⟩ := p
    cases value with
    | none => rfl
    | some v =>
      simp only [settle, take]
      split
      · rfl
      · split <;> rfl

lemma finish_of_line {items : List Item} {words : List String} (h : Line role items words)
    (hs : s.Ready) : finish role words s = s.settle >>= takeAll items := by
  induction h generalizing s with
  | nil => rfl
  | dashes =>
    rw [finish_cons, step_dashes hs.dashed]
    exact finish_dashed role s
  | @cons f v ws words items hf hspelled _ ih =>
    cases hspelled with
    | @apart word hbare hapart =>
      have hflag : s.step role word = s.settle >>= fun t =>
          .ok { t with pending := some ⟨f, none⟩ } := step_bare hs.dashed hf hbare
      change finish role (word :: v :: words) s = _
      rw [finish_cons, hflag, bind_assoc]
      cases hsettle : s.settle with
      | error stop => rfl
      | ok t =>
        obtain ⟨hpending, hdashed⟩ := settle_eq_ok hsettle
        have hfree : t.dashed = false := hdashed.trans hs.dashed
        -- The value is left pending, for the rest of the line to take it first.
        let bare : State := { t with pending := some ⟨f, none⟩ }
        let full : State := { t with pending := some ⟨f, some v⟩ }
        have hvalue : bare.step role v = .ok full := step_apart (s := bare) hfree hapart
        have hready : full.Ready := ⟨hfree, by simp [full]⟩
        change finish role (v :: words) bare = takeAll ((f, v) :: items) t
        rw [finish_cons, hvalue, takeAll_cons]
        change finish role words full = _
        rw [ih hready, settle_of_some hpending]
    | @joined word hjoined =>
      have hflag : s.step role word = s.settle >>= fun t => t.take f v :=
        step_joined hs.dashed hf hjoined
      change finish role (word :: words) s = _
      rw [finish_cons, hflag, bind_assoc]
      cases hsettle : s.settle with
      | error stop => rfl
      | ok t =>
        obtain ⟨hpending, hdashed⟩ := settle_eq_ok hsettle
        change t.take f v >>= finish role words = takeAll ((f, v) :: items) t
        rw [takeAll_cons]
        cases htake : t.take f v with
        | error stop => rfl
        | ok t' =>
          obtain ⟨_, a, _, ht'⟩ := take_eq_ok htake
          have hnone : t'.pending = none := by rw [ht', hpending]
          have hready : t'.Ready := ready_of_none (by rw [ht']; exact hdashed.trans hs.dashed) hnone
          change finish role words t' = takeAll items t'
          rw [ih hready, settle_of_none hnone]
          rfl

lemma finish_of_dashed {words : List String} {given : Given} (hs : s.dashed = true)
    (h : finish role words s = .ok given) : words = [] := by
  cases words with
  | nil => rfl
  | cons word rest =>
    rw [finish_cons, step, hs] at h
    cases h

lemma settle_ne_ok (h : s.pending = some ⟨f, none⟩) : s.settle ≠ .ok t := by
  rw [settle, h]
  nofun

lemma flag_none_eq_ok (h : s.flag f none = .ok t) :
    ∃ t', s.settle = .ok t' ∧ t = { t' with pending := some ⟨f, none⟩ } := by
  change (s.settle >>= fun t' => .ok { t' with pending := some ⟨f, none⟩ }) = _ at h
  cases hsettle : s.settle with
  | error stop =>
    rw [hsettle] at h
    cases h
  | ok t' =>
    rw [hsettle] at h
    exact ⟨t', rfl, (Except.ok.inj h).symm⟩

lemma flag_some_eq_ok (h : s.flag f (some v) = .ok t) :
    ∃ t', s.settle = .ok t' ∧ t'.take f v = .ok t := by
  change (s.settle >>= fun t' => t'.take f v) = _ at h
  cases hsettle : s.settle with
  | error stop =>
    rw [hsettle] at h
    cases h
  | ok t' =>
    rw [hsettle] at h
    exact ⟨t', rfl, h⟩

lemma plainWord_eq_ok (h : s.plainWord word = .ok t) :
    ∃ f, s.pending = some ⟨f, none⟩ ∧ t = { s with pending := some ⟨f, some word⟩ } := by
  rw [plainWord] at h
  split at h
  · next f hf => exact ⟨f, hf, (Except.ok.inj h).symm⟩
  · cases h

/-- A flag that waits for its value has it in the next word. -/
lemma exists_line {words : List String} {given : Given} (hs : s.dashed = false)
    (h : finish role words s = .ok given) :
    ((∀ f, s.pending ≠ some ⟨f, none⟩) → ∃ items, Line role items words) ∧
      ∀ f, s.pending = some ⟨f, none⟩ →
        ∃ v rest items, words = v :: rest ∧ StandsApart v ∧ Line role items rest := by
  induction words generalizing s with
  | nil =>
    refine ⟨fun _ => ⟨[], .nil⟩, fun f hf => ?_⟩
    change s.settle >>= _ = _ at h
    rw [settle, hf] at h
    cases h
  | cons word rest ih =>
    rw [finish_cons] at h
    cases hstep : s.step role word with
    | error stop =>
      rw [hstep] at h
      cases h
    | ok t =>
      rw [hstep] at h
      change finish role rest t = .ok given at h
      cases taken_of_step hs hstep with
      | dashes hword =>
        obtain rfl : rest = [] := finish_of_dashed rfl h
        refine ⟨fun _ => ⟨[], hword ▸ .dashes⟩, fun f hf => ?_⟩
        change settle _ >>= _ = _ at h
        simp only [settle, hf] at h
        cases h
      | bare hf hbare hflag =>
        obtain ⟨t', hsettle, ht⟩ := flag_none_eq_ok hflag
        have hfree : t.dashed = false := by
          rw [ht]
          exact (settle_eq_ok hsettle).2.trans hs
        obtain ⟨v, words, items, rfl, hapart, hline⟩ := (ih hfree h).2 _ (by rw [ht])
        exact ⟨fun _ => ⟨_, .cons hf (.apart hbare hapart) hline⟩, fun g hg =>
          absurd hsettle (settle_ne_ok hg)⟩
      | joined hf hjoined hflag =>
        obtain ⟨t', hsettle, htake⟩ := flag_some_eq_ok hflag
        obtain ⟨hpending, hdashed⟩ := settle_eq_ok hsettle
        obtain ⟨_, a, _, ht⟩ := take_eq_ok htake
        have hfree : t.dashed = false := by
          rw [ht]
          exact hdashed.trans hs
        obtain ⟨items, hline⟩ := (ih hfree h).1 (by simp [ht, hpending])
        exact ⟨fun _ => ⟨_, .cons hf (.joined hjoined) hline⟩, fun g hg =>
          absurd hsettle (settle_ne_ok hg)⟩
      | apart hapart hplain =>
        obtain ⟨f, hf, ht⟩ := plainWord_eq_ok hplain
        have hfree : t.dashed = false := by
          rw [ht]
          exact hs
        obtain ⟨items, hline⟩ := (ih hfree h).1 (by simp [ht])
        exact ⟨fun hpending => absurd hf (hpending f), fun _ _ =>
          ⟨word, rest, items, rfl, hapart, hline⟩⟩

end State

/-- The words of a command line come to no more than its flags with their values. -/
theorem parse_of_line {items : List Item} {words : List String} (h : Line role items words) :
    parse role words = State.initial.takeAll items :=
  State.finish_of_line h ⟨rfl, nofun⟩

theorem exists_line_of_parse {words : List String} {given : Given}
    (h : parse role words = .ok given) : ∃ items, Line role items words :=
  (State.exists_line (s := .initial) rfl h).1 nofun

end DeviceFleet.CommandLine
