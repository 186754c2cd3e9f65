import DeviceFleet.Number.Binary64
import DeviceFleet.Text.Decimal

/-!
The fewest decimal digits that read back as a given double-precision number, and among those the
nearest to it, of two equally near the greater. They are written positionally and always with a
point, or, where that would take many zeros, with an exponent.
-/

namespace DeviceFleet.Binary64

/-- In quarter units of the exponent: the number, and the ends of the interval that rounds to it. -/
structure Interval where
  value : Nat
  low : Nat
  high : Nat
  closed : Bool

def interval (coefficient : Nat) (exponent : Int) : Interval where
  value := 4 * coefficient
  low :=
    if coefficient = leastFull ∧ exponent > -1074 then 4 * coefficient - 1
    else 4 * coefficient - 2
  high := 4 * coefficient + 2
  closed := coefficient % 2 = 0

/-- Factors that make quarter units and steps of ten to the `k` comparable. -/
def scales (exponent k : Int) : Nat × Nat :=
  (Nat.pow 2 (exponent - 2).toNat * Nat.pow 10 (-k).toNat,
    Nat.pow 10 k.toNat * Nat.pow 2 (2 - exponent).toNat)

def Interval.holds (i : Interval) (unit step m : Nat) : Bool :=
  let x := m * step
  if i.closed then i.low * unit ≤ x && x ≤ i.high * unit
  else i.low * unit < x && x < i.high * unit

/-- The multiple of the step in the interval that is nearest to the number, the greater of two. -/
def Interval.pick (i : Interval) (unit step : Nat) : Option Nat :=
  let m := i.value * unit / step
  match i.holds unit step m, i.holds unit step (m + 1) with
  | true, true =>
    if i.value * unit - m * step < (m + 1) * step - i.value * unit then some m else some (m + 1)
  | true, false => some m
  | false, true => some (m + 1)
  | false, false => none

/-- Looks through ever finer decimal steps. -/
def search (i : Interval) (exponent : Int) : Nat → Int → Nat × Int
  | 0, k => (0, k)
  | fuel + 1, k =>
    let s := scales exponent k
    match i.pick s.1 s.2 with
    | some m => if m = 0 then search i exponent fuel (k - 1) else (m, k)
    | none => search i exponent fuel (k - 1)

/-- Digits and power of ten of a positive number. -/
def shortest (coefficient : Nat) (exponent : Int) : Nat × Int :=
  let top := (exponent + coefficient.log2) * 30103 / 100000 + 2
  search (interval coefficient exponent) exponent 64 top

/-- Positional notation with at least one digit on both sides of the point. -/
def positional (m : Nat) (k : Int) : List Char :=
  let ds := Text.Decimal.digits m
  if k ≥ 0 then ds ++ List.replicate k.toNat '0' ++ ['.', '0']
  else
    let after := (-k).toNat
    if after < ds.length then ds.take (ds.length - after) ++ '.' :: ds.drop (ds.length - after)
    else ['0', '.'] ++ List.replicate (after - ds.length) '0' ++ ds

/-- One digit before the point, and an exponent with its sign. -/
def scientific (m : Nat) (k : Int) : List Char :=
  let ds := Text.Decimal.digits m
  let exponent := k + (ds.length - 1)
  let sign := if exponent < 0 then '-' else '+'
  ds.take 1 ++ (if ds.length = 1 then [] else '.' :: ds.drop 1) ++
    ['e', sign] ++ Text.Decimal.digits exponent.natAbs

/-- Positional from a hundred-thousandth up to below ten to the sixteenth, else with an exponent. -/
def compact (m : Nat) (k : Int) : List Char :=
  let exponent := k + ((Text.Decimal.digits m).length - 1)
  if -5 ≤ exponent ∧ exponent ≤ 15 then positional m k else scientific m k

/-- The text in one of the two ways of writing digits and a power of ten. -/
def textBy (write : Nat → Int → List Char) : Binary64 → String
  | .nan => "NaN"
  | .infinite negative => if negative then "-inf" else "inf"
  | .finite negative c e =>
    let s := if c = 0 then (0, 0) else shortest c e
    (if negative then "-" else "") ++ String.ofList (write s.1 s.2)

def text : Binary64 → String := textBy positional

def compactText : Binary64 → String := textBy compact

end DeviceFleet.Binary64
