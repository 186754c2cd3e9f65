import DeviceFleet.Settings.LogLevel
import DeviceFleet.Telemetry.Event
import DeviceFleet.Text.Alphanumeric
import DeviceFleet.Text.Blank
import DeviceFleet.Text.Cut
import DeviceFleet.Text.Decimal
import DeviceFleet.Text.Regex.Parser

/-!
Directives of a filter of the log. Each limits the severity of records: of those whose target begins
with a text, of those with certain fields, or of all that are logged inside certain spans.
-/

namespace DeviceFleet

/-- The least severe records that pass, or nothing. -/
abbrev Limit := Option Severity

def Limit.admits (l : Limit) (s : Severity) : Bool := l.any fun least => s.rank ≤ least.rank

def LogLevel.severity : LogLevel → Severity
  | .debug => .debug
  | .info => .info
  | .warn => .warn
  | .error => .error

/-- A field that must be there, perhaps with a value: a truth value, a number, or a text that an
expression describes. -/
structure FieldPattern where
  name : String
  value : Option String
  deriving DecidableEq, Repr

structure Directive where
  target : Option String
  span : Option String
  fields : List FieldPattern
  limit : Limit
  deriving DecidableEq, Repr

namespace FieldPattern

def isExponent : List Char → Bool
  | 'e' :: r => isSigned r
  | 'E' :: r => isSigned r
  | s => s.isEmpty
where
  isSigned (s : List Char) : Bool :=
    let ds := if s.head? = some '+' ∨ s.head? = some '-' then s.drop 1 else s
    !ds.isEmpty && ds.all Text.Decimal.isDigit

/-- Digits with at most one point before, among or after them, and perhaps an exponent. -/
def isDecimal (s : List Char) : Bool :=
  let whole := s.takeWhile Text.Decimal.isDigit
  match s.dropWhile Text.Decimal.isDigit with
  | '.' :: r =>
    let fraction := r.takeWhile Text.Decimal.isDigit
    !(whole.isEmpty && fraction.isEmpty) && isExponent (r.dropWhile Text.Decimal.isDigit)
  | r => !whole.isEmpty && isExponent r

def numberWords : List String := ["inf", "infinity", "nan"]

def isNumber (s : List Char) : Bool :=
  let s := if s.head? = some '+' ∨ s.head? = some '-' then s.drop 1 else s
  isDecimal s || numberWords.contains (String.ofList (s.map Char.toLower))

def isTruth (s : List Char) : Bool := s = "true".toList || s = "false".toList

/-- Whether a value can be given: anything but a faulty expression. -/
def isValue (s : List Char) : Bool :=
  isTruth s || isNumber s || (Text.Regex.parse? s).isSome

/-- The name before the first equals sign, and what stands between it and the next one. -/
def parse? (s : List Char) : Option FieldPattern :=
  match Text.segments '=' s with
  | name :: value :: _ =>
    if isValue value then some ⟨String.ofList name, some (String.ofList value)⟩ else none
  | _ => if s.isEmpty then none else some ⟨String.ofList s, none⟩

/-- Whether a text is the value: an expression describes it up to its end. -/
def fitsText (value : List Char) (text : String) : Bool :=
  !(isTruth value || isNumber value) &&
    (Text.Regex.parse? value).any fun r => r.reachesEnd text.toList

def fitsCount (value : List Char) (n : Nat) : Bool :=
  let ds := if value.head? = some '+' then value.drop 1 else value
  !ds.isEmpty && ds.all Text.Decimal.isDigit && Text.Decimal.value ds = n

end FieldPattern

namespace Directive

def limitWords : List (String × Limit) := [
  ("off", none),
  ("error", some .error),
  ("warn", some .warn),
  ("info", some .info),
  ("debug", some .debug),
  ("trace", some .trace)]

/-- A number up to five, or a word in letters of either case. -/
def limit? (s : List Char) : Option Limit :=
  let ds := if s.head? = some '+' then s.drop 1 else s
  if !ds.isEmpty && ds.all Text.Decimal.isDigit then
    (limitWords[Text.Decimal.value ds]?).map (·.2)
  else limitWords.lookup (String.ofList (s.map Char.toLower))

/-- How far a directive is read, with where the part at hand begins. -/
inductive Stage
  | opening
  | target (start : Nat)
  | span (start : Nat)
  | field (start : Nat)
  | fieldsEnd
  | spanEnd
  | limit (start : Nat)
  deriving DecidableEq, Repr

def opensTarget (c : Char) : Bool := c ∈ ['-', ':', '_'] || Text.isAlphanumeric c

def part (whole : List Char) (start stop : Nat) : List Char :=
  (whole.drop start).take (stop - start)

def named (s : List Char) : Option String := if s.isEmpty then none else some (String.ofList s)

/-- The next character, which has the number `i`. -/
def step (whole : List Char) (i : Nat) (c : Char) (stage : Stage) (d : Directive) :
    Option (Stage × Directive) :=
  match stage with
  | .opening =>
    if c = '[' then some (.span (i + 1), d)
    else if opensTarget c then some (.target i, d)
    else none
  | .target start =>
    let target := some (String.ofList (part whole start i))
    if c = '=' then some (.limit (i + 1), { d with target })
    else if c = '[' then some (.span (i + 1), { d with target })
    else some (stage, d)
  | .span start =>
    if c = ']' then some (.spanEnd, { d with span := some (String.ofList (part whole start i)) })
    else if c = '\x7b' then some (.field (i + 1), { d with span := named (part whole start i) })
    else some (stage, d)
  | .field start =>
    if c = '\x7d' then do
      let p ← FieldPattern.parse? (part whole start i)
      some (.fieldsEnd, { d with fields := d.fields ++ [p] })
    else some (stage, d)
  | .fieldsEnd => if c = ']' then some (.spanEnd, d) else none
  | .spanEnd => if c = '=' then some (.limit (i + 1), d) else none
  | .limit _ => some (stage, d)

def readFrom (whole : List Char) : Nat → Stage → Directive → List Char → Option (Stage × Directive)
  | _, stage, d, [] => some (stage, d)
  | i, stage, d, c :: r => do
    let (stage, d) ← step whole i c stage d
    readFrom whole (i + 1) stage d r

/-- The end of the text. A lone part is a limit if it reads as one, else a target. Without a limit
everything passes. -/
def conclude (whole : List Char) (d : Directive) : Stage → Option Directive
  | .target start =>
    let s := whole.drop start
    match limit? s with
    | some limit => some { d with limit }
    | none => some { d with target := some (String.ofList s) }
  | .limit start =>
    let s := whole.drop start
    if s.isEmpty then some d else (limit? s).map fun limit => { d with limit }
  | .spanEnd => some d
  | _ => none

/-- Blanks around a directive are passed over, but its parts are counted off from the start of the
text, blanks included. -/
def parse? (s : List Char) : Option Directive := do
  let (stage, d) ← readFrom s 0 .opening ⟨none, none, [], some .trace⟩ (Text.trimChars s)
  conclude s d stage

/-- Whether the directive speaks of spans, by name or by their fields. -/
def isSpanwise (d : Directive) : Bool := d.span.isSome || !d.fields.isEmpty

def coversTarget (d : Directive) (target : String) : Bool :=
  d.target.all fun t => t.isPrefixOf target

/-- Whether two directives speak of the same, so that the later one counts. -/
def sameSubject (d e : Directive) : Bool :=
  d.target = e.target && d.span = e.span && d.fields = e.fields

end Directive

end DeviceFleet
