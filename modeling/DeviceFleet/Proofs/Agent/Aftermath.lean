import DeviceFleet.Proofs.Agent.OwnRecord

/-! A heartbeat that was told to stop while a slow store keeps one of its calls. Its run may return at
the deadline meanwhile; the beat goes on when the store answers, and may make one more call. -/

namespace DeviceFleet

namespace Heartbeat

variable {h : Heartbeat} {p : Phase} {t : Ticker}

/-- The call that a heartbeat waits for. -/
def Phase.pending? : Phase → Option Request
  | .beating _ (.call q _) => some q
  | _ => none

/-- The store answers at last: the beat goes on to its next call, or to its end. -/
def Phase.answered (reply : (q : Request) → q.Result) : Phase → Phase
  | .beating t (.call q next) =>
    match next (reply q) with
    | .done _ => .waiting t
    | .call q' next' => .beating t (.call q' next')
  | p => p

/-- What occurs to a heartbeat that was told to stop. -/
inductive Late
  | look (rung now : Nat)
  | answer (reply : (q : Request) → q.Result)

def late (h : Heartbeat) (p : Phase) : Late → Phase
  | .look rung now => h.wake true rung now p
  | .answer reply => p.answered reply

/-- The call that begins then, if any: a look begins one if none was pending, an answer if the beat
goes on. -/
def begun (h : Heartbeat) (p : Phase) : Late → Option Request
  | .look rung now => if p.pending?.isSome then none else (h.wake true rung now p).pending?
  | .answer reply => if p.pending?.isSome then (p.answered reply).pending? else none

def allBegun (h : Heartbeat) : Phase → List Late → List Request
  | _, [] => []
  | p, m :: rest => (h.begun p m).toList ++ h.allBegun (h.late p m) rest

lemma allBegun_of_idle (hp : p.pending? = none) (ms : List Late) : h.allBegun p ms = [] := by
  induction ms generalizing p with
  | nil => rfl
  | cons m rest ih =>
    have hkeep : h.begun p m = none ∧ (h.late p m).pending? = none := by
      cases p with
      | spawned | ended | crashed => cases m <;> exact ⟨rfl, rfl⟩
      | waiting t => cases m <;> exact ⟨rfl, rfl⟩
      | beating t c =>
        cases c with
        | done e => cases m <;> exact ⟨rfl, rfl⟩
        | call q next => exact absurd hp nofun
    rw [allBegun, hkeep.1, ih hkeep.2]
    rfl

/-- The second call of a beat is its last. -/
lemma allBegun_of_last {q : Request} {next : q.Result → Client BeatEnd}
    (hlast : ∀ result, ∃ e, next result = .done e) (ms : List Late) :
    h.allBegun (.beating t (.call q next)) ms = [] := by
  induction ms with
  | nil => rfl
  | cons m rest ih =>
    cases m with
    | look rung now => exact ih
    | answer reply =>
      obtain ⟨e, he⟩ := hlast (reply q)
      have hend : Phase.answered reply (.beating t (.call q next)) = .waiting t := by
        simp only [Phase.answered, he]
      have hidle : h.allBegun (.waiting t) rest = [] := allBegun_of_idle rfl rest
      simp [allBegun, begun, late, hend, hidle, Phase.pending?]

/-- A beat that is under way when its heartbeat is told to stop begins no call but the one that
creates its record again, and that one once at most. -/
theorem allBegun_of_beat (t : Ticker) (ms : List Late) :
    h.allBegun (.beating t (beat h.record)) ms = [] ∨
      h.allBegun (.beating t (beat h.record)) ms = [.create h.record] := by
  induction ms with
  | nil => exact .inl rfl
  | cons m rest ih =>
    cases m with
    | look rung now => exact ih
    | answer reply =>
      have hidle : h.allBegun (.waiting t) rest = [] := allBegun_of_idle rfl rest
      cases hreply : reply (.update h.record) with
      | ok r =>
        left
        simp [allBegun, begun, late, beat, Phase.answered, Phase.pending?, hreply, hidle]
      | error e =>
        cases e with
        | notFound k =>
          right
          simp only [allBegun, begun, late, beat, Phase.answered, Phase.pending?, hreply]
          rw [allBegun_of_last]
          · rfl
          · intro result
            cases result <;> exact ⟨_, rfl⟩
        | alreadyExists | invalidKey | invalidPageToken =>
          left
          simp [allBegun, begun, late, beat, Phase.answered, Phase.pending?, hreply, hidle]

end Heartbeat

namespace Simulation.Run

/-- The store keeps the first update until the run has returned, and then has no such record. -/
theorem beat_outlives_run :
    let d := (Draft.new .device).writeAll [.name "dev-1", .port "0", .heartbeatIntervalSecs 1]
    let m : Machine := ⟨"/", ⟨[], []⟩, fun _ => none, fun _ => none⟩
    let slow : Script := { Script.empty with update := [.stall] }
    let clockAt (ms : Nat) : Move := .reschedule { Schedule.initial with now := ms, rung := ms }
    let r := (start ⟨.device, d, none, none⟩ m (.new (.new slow .epoch 0))).moves
      [.turn .supervisor, .turn .loop, .turn (.heartbeat 0), clockAt 1000, .turn (.heartbeat 0),
        .signal 1000, .turn .supervisor, clockAt 6000, .turn .supervisor]
    let missing (q : Request) : q.Result := .error (.notFound q.key)
    r.supervisor.result? = some (.ok ⟨true, true⟩) ∧
      (r.heartbeats.map fun b => (b.stopping, b.phase.pending?.map Request.operation)) =
        [(true, some .update)] ∧
      (r.heartbeats.map fun b => (b.phase.answered missing).pending?.map Request.operation) =
        [some .create] := by
  decide +kernel

end Simulation.Run

end DeviceFleet
