import DeviceFleet.Text.Decimal
import DeviceFleet.Toml.Reader

/-!
Numbers: whole ones in four bases, within 64 bits with sign; and double-precision ones, with the
words for infinity and for what is no number. Single underscores may stand between digits.
-/

namespace DeviceFleet.Toml

/-- Digits with single underscores between them; the underscores are dropped. After an underscore
there must be a digit. -/
def digitRun (isDigit : Char → Bool) : List Char → Outcome (List Char × Rest)
  | c :: r =>
    if isDigit c then go [c] r else refuse (c :: r)
  | [] => refuse []
where
  go (done : List Char) : List Char → Outcome (List Char × Rest)
    | '_' :: c :: r => if isDigit c then go (c :: done) r else fail (c :: r)
    | ['_'] => fail []
    | c :: r => if isDigit c then go (c :: done) r else .ok (done.reverse, c :: r)
    | [] => .ok (done.reverse, [])

def sign : List Char → Bool × List Char
  | '-' :: r => (true, r)
  | '+' :: r => (false, r)
  | s => (false, s)

/-- Decimal digits without a leading zero, but for zero itself. -/
def wholeDigits : List Char → Outcome (List Char × Rest)
  | '0' :: r => .ok (['0'], r)
  | s => digitRun Text.Decimal.isDigit s

def withinLong (n : Int) : Bool := -9223372036854775808 ≤ n && n < 9223372036854775808

def ofDigits (base : Nat) (ds : List Char) : Nat :=
  ds.foldl (fun n c => base * n + (hexDigit? c).getD 0) 0

/-- An integer in another base, of which two characters tell; one out of bounds is a fault at its
start. -/
def basedInteger (base : Nat) (s : List Char) : Outcome (Value × Rest) := do
  let (ds, r) ← commit (digitRun (fun c => (hexDigit? c).any (· < base)) (s.drop 2))
  let n := ofDigits base ds
  if withinLong n then .ok (.integer n, r) else fail s

def integer (s : List Char) : Outcome (Value × Rest) :=
  match s with
  | '0' :: 'x' :: _ => basedInteger 16 s
  | '0' :: 'o' :: _ => basedInteger 8 s
  | '0' :: 'b' :: _ => basedInteger 2 s
  | _ => do
    let (negative, t) := sign s
    let (ds, r) ← wholeDigits t
    let n : Int := Text.Decimal.value ds
    let n := if negative then -n else n
    if withinLong n then .ok (.integer n, r) else fail s

def word? (w s : List Char) : Option (List Char) :=
  if w.isPrefixOf s then some (s.drop w.length) else none

def specialNumber (s : List Char) : Outcome (Value × Rest) :=
  let (negative, t) := sign s
  match word? "inf".toList t with
  | some r => .ok (.number (.infinite negative), r)
  | none =>
    match word? "nan".toList t with
    | some r => .ok (.number .nan, r)
    | none => refuse t

/-- An exponent, if one is there. -/
def exponent : List Char → Outcome (Option Int × Rest)
  | c :: r =>
    if c = 'e' ∨ c = 'E' then do
      let (negative, r) := sign r
      let (ds, r) ← commit (digitRun Text.Decimal.isDigit r)
      let n : Int := Text.Decimal.value ds
      .ok (some (if negative then -n else n), r)
    else .ok (none, c :: r)
  | [] => .ok (none, [])

def fraction : List Char → Outcome (Option (List Char) × Rest)
  | '.' :: r => do
    let (ds, r) ← commit (digitRun Text.Decimal.isDigit r)
    .ok (some ds, r)
  | s => .ok (none, s)

/-- A decimal number with a fraction, an exponent or both; none is beyond the largest. -/
def decimal (s : List Char) : Outcome (Value × Rest) := do
  let (negative, t) := sign s
  let (whole, t) ← wholeDigits t
  let (frac, t) ← fraction t
  let (exp, t) ← exponent t
  let ds := frac.getD []
  let m := Text.Decimal.value (whole ++ ds)
  let x := Binary64.ofDecimal negative m (exp.getD 0 - ds.length)
  if x = .infinite false then fail s else .ok (.number x, t)

/-- Whether a fraction or an exponent follows the digits before it. -/
def isDecimal (s : List Char) : Bool :=
  match wholeDigits (sign s).2 with
  | .ok (_, c :: _) => c = '.' || c = 'e' || c = 'E'
  | _ => false

def number (s : List Char) : Outcome (Value × Rest) :=
  match (sign s).2 with
  | 'i' :: _ | 'n' :: _ => specialNumber s
  | _ => if isDecimal s then decimal s else integer s

end DeviceFleet.Toml
