import DeviceFleet.Telemetry.Directive

/-!
Filters of the log. For a record the most specific directive decides that speaks of its target and
fields; a record inside a span passes also if a directive for that span lets it. A span that is
filtered out tags nothing.
-/

namespace DeviceFleet

/-- A directive as it bears on single records: a limit for those with a target and certain
fields. -/
structure TargetRule where
  target : Option String
  fields : List String
  limit : Limit
  deriving DecidableEq, Repr

namespace TargetRule

def ofDirective? (d : Directive) : Option TargetRule :=
  if d.span.isNone && d.fields.all (·.value.isNone) then
    some ⟨d.target, d.fields.map (·.name), d.limit⟩
  else none

/-- Longer targets weigh more, then more fields. -/
def weight (r : TargetRule) : Nat × Nat :=
  (match r.target with
    | none => 0
    | some t => t.utf8ByteSize + 1, r.fields.length)

/-- Whether one rule counts rather than another, earlier one that covers the same. -/
def prevailsOver (r s : TargetRule) : Bool :=
  if r.weight.1 ≠ s.weight.1 then s.weight.1 < r.weight.1
  else if r.weight.2 ≠ s.weight.2 then s.weight.2 < r.weight.2
  else !decide (r.fields < s.fields)

def decisive (best : Option TargetRule) (r : TargetRule) : Option TargetRule :=
  match best with
  | none => some r
  | some b => if r.prevailsOver b then some r else some b

def coversTarget (r : TargetRule) (target : String) : Bool :=
  r.target.all fun t => t.isPrefixOf target

def coversFields (r : TargetRule) (names : List String) : Bool := r.fields.all names.contains

end TargetRule

namespace Event

def fieldNames (e : Event) : List String := "message" :: e.fields.map (·.1)

end Event

namespace Scope

def spanName : String := "process"

def spanTarget : String := Target.logging

def spanSeverity : Severity := .info

def fieldNames : List String := ["component", "boot_ts"]

/-- Whether a field of the span is as a pattern says. -/
def fits (p : FieldPattern) (s : Scope) : Bool :=
  match p.value with
  | none => fieldNames.contains p.name
  | some v =>
    if p.name = "component" then FieldPattern.fitsText v.toList s.component
    else p.name = "boot_ts" && FieldPattern.fitsCount v.toList s.bootedAt.toMillis

end Scope

structure Filter where
  directives : List Directive
  deriving DecidableEq, Repr

namespace Filter

def ofLevel (l : LogLevel) : Filter := ⟨[⟨none, none, [], some l.severity⟩]⟩

def parse? (text : String) : Option Filter :=
  (((Text.segments ',' text.toList).filter (· ≠ [])).mapM Directive.parse?).map Filter.mk

/-- A text that is a filter overrides the level of the settings. -/
def choose (text : Option String) (l : LogLevel) : Filter := (text.bind parse?).getD (ofLevel l)

/-- The rules for single records; those of directives that speak of spans come last. -/
def rules (f : Filter) : List TargetRule :=
  (f.directives.filter (!·.isSpanwise)).filterMap TargetRule.ofDirective? ++
    (f.directives.filter (·.isSpanwise)).filterMap TargetRule.ofDirective?

def limitBy (covers : TargetRule → Bool) (f : Filter) : Limit :=
  ((f.rules.filter covers).foldl TargetRule.decisive none).bind (·.limit)

/-- For spans the fields of a rule do not count. -/
def spanLimit (f : Filter) : Limit := f.limitBy (·.coversTarget Scope.spanTarget)

def eventLimit (f : Filter) (e : Event) : Limit :=
  f.limitBy fun r => r.coversTarget e.target && r.coversFields e.fieldNames

def keepLast : List Directive → List Directive
  | [] => []
  | d :: r => if r.any d.sameSubject then keepLast r else d :: keepLast r

/-- The directives for the process span. -/
def spanDirectives (f : Filter) : List Directive :=
  (keepLast (f.directives.filter (·.isSpanwise))).filter fun d =>
    d.coversTarget Scope.spanTarget && d.span.all (· = Scope.spanName) &&
      d.fields.all fun p => Scope.fieldNames.contains p.name

def testsValues (f : Filter) : Bool := f.directives.any fun d => d.fields.any (·.value.isSome)

/-- No record passes that every directive bars, unless values of fields are still to be seen. -/
def mayAdmit (f : Filter) (s : Severity) : Bool :=
  f.testsValues || f.directives.any (·.limit.admits s)

def admitsSpan (f : Filter) : Bool :=
  f.mayAdmit Scope.spanSeverity &&
    (!f.spanDirectives.isEmpty || f.spanLimit.admits Scope.spanSeverity)

def admitsInside (f : Filter) (s : Scope) (severity : Severity) : Bool :=
  f.spanDirectives.any fun d => d.fields.all (s.fits ·) && d.limit.admits severity

/-- A record as it is written, if it is: with its span only if that is admitted too. -/
def record? (f : Filter) (r : LogRecord) : Option LogRecord :=
  let scope := if f.admitsSpan then r.scope else none
  let severity := r.event.severity
  if f.mayAdmit severity &&
      (scope.any (f.admitsInside · severity) || (f.eventLimit r.event).admits severity) then
    some { r with scope }
  else none

def apply (f : Filter) (rs : List LogRecord) : List LogRecord := rs.filterMap f.record?

end Filter

end DeviceFleet
