import DeviceFleet.Telemetry.Filter
import Mathlib.Tactic.Lemma

/-!
Filters that are no more than a level. The process span has a severity of its own, so it is there or
not, for all records alike, as the level is.
-/

namespace DeviceFleet

namespace LogLevel

def writes (l : LogLevel) (s : Severity) : Bool := s.rank ≤ l.severity.rank

def keepsSpan (l : LogLevel) : Bool := l.writes Scope.spanSeverity

/-- What is left of the span around a record. -/
def spanLeft (l : LogLevel) (scope : Option Scope) : Option Scope :=
  if l.keepsSpan then scope else none

lemma spanLeft_eq (l : LogLevel) (scope : Option Scope) :
    l.spanLeft scope = if l = .debug ∨ l = .info then scope else none := by
  have hkeeps : l.keepsSpan = true ↔ l = .debug ∨ l = .info := by cases l <;> decide
  simp only [spanLeft, hkeeps]

end LogLevel

namespace Filter

lemma choose_none (l : LogLevel) : choose none l = ofLevel l := rfl

lemma mayAdmit_ofLevel (l : LogLevel) (s : Severity) : (ofLevel l).mayAdmit s = l.writes s := by
  simp [mayAdmit, testsValues, ofLevel, Limit.admits, LogLevel.writes]

lemma limitBy_ofLevel (l : LogLevel) (covers : TargetRule → Bool)
    (h : covers ⟨none, [], some l.severity⟩ = true) :
    (ofLevel l).limitBy covers = some l.severity := by
  have hrules : (ofLevel l).rules = [⟨none, [], some l.severity⟩] := rfl
  rw [limitBy, hrules, List.filter_cons_of_pos h]
  rfl

lemma admitsSpan_ofLevel (l : LogLevel) : (ofLevel l).admitsSpan = l.keepsSpan := by
  have hdirectives : (ofLevel l).spanDirectives = [] := rfl
  rw [admitsSpan, mayAdmit_ofLevel, hdirectives, spanLimit, limitBy_ofLevel l _ rfl]
  simp [Limit.admits, LogLevel.keepsSpan, LogLevel.writes]

/-- A record is written if its severity passes the level, and with its span if the level leaves
that. -/
theorem record?_ofLevel (l : LogLevel) (r : LogRecord) :
    (ofLevel l).record? r =
      if l.writes r.event.severity then some { r with scope := l.spanLeft r.scope } else none := by
  have hinside (s : Scope) : (ofLevel l).admitsInside s r.event.severity = false := rfl
  have hlimit : (ofLevel l).eventLimit r.event = some l.severity := limitBy_ofLevel l _ rfl
  rw [record?, mayAdmit_ofLevel, admitsSpan_ofLevel, hlimit]
  simp [hinside, Limit.admits, LogLevel.writes, LogLevel.spanLeft]

theorem apply_ofLevel (l : LogLevel) (scope : Option Scope) (es : List Event) :
    (ofLevel l).apply (es.map (LogRecord.mk · scope)) =
      (es.filter fun e => l.writes e.severity).map (LogRecord.mk · (l.spanLeft scope)) := by
  induction es with
  | nil => rfl
  | cons e rest ih =>
    rw [apply] at ih ⊢
    rw [List.map_cons, List.filterMap_cons, record?_ofLevel, ih, List.filter_cons]
    cases l.writes e.severity <;> rfl

end Filter

end DeviceFleet
