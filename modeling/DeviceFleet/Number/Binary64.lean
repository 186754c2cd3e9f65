/-!
Double-precision numbers as signed multiples of powers of two. A ratio is rounded to the nearest
one, ties to the even coefficient.
-/

namespace DeviceFleet

/-- A finite number is its coefficient, below 2^53, times two to its exponent, at least -1074. -/
inductive Binary64
  | finite (negative : Bool) (coefficient : Nat) (exponent : Int)
  | infinite (negative : Bool)
  | nan
  deriving DecidableEq, Repr

namespace Binary64

/-- The nearest natural number to a ratio, the even one of two. -/
def roundHalfEven (num den : Nat) : Nat :=
  let q := num / den
  let r := num % den
  if 2 * r < den then q
  else if den < 2 * r then q + 1
  else if q % 2 = 0 then q else q + 1

/-- The least coefficient with all 53 binary digits. -/
def leastFull : Nat := 4503599627370496

/-- The ratio in units of two to the exponent. -/
def inUnits (num den : Nat) (exponent : Int) : Nat × Nat :=
  (num * Nat.pow 2 (-exponent).toNat, den * Nat.pow 2 exponent.toNat)

/-- The unit in which a ratio has 53 binary digits, no smaller than the smallest unit. -/
def unitOf (num den : Nat) : Int :=
  let e : Int := (num.log2 : Int) - den.log2 - 52
  let s := inUnits num den e
  max (if s.1 / s.2 < leastFull then e - 1 else e) (-1074)

def normalize (negative : Bool) (coefficient : Nat) (exponent : Int) : Binary64 :=
  if coefficient = 2 * leastFull then
    if exponent + 1 > 971 then .infinite negative else .finite negative leastFull (exponent + 1)
  else if exponent > 971 then .infinite negative
  else .finite negative coefficient exponent

def ofRatio (negative : Bool) (num den : Nat) : Binary64 :=
  if num = 0 then .finite negative 0 (-1074)
  else
    let e := unitOf num den
    let s := inUnits num den e
    normalize negative (roundHalfEven s.1 s.2) e

def ofNat (n : Nat) : Binary64 := ofRatio false n 1

/-- The number nearest to `m * 10^e`; beyond 310 digits before or 330 after the point the answer
is known without the power. -/
def ofDecimal (negative : Bool) (m : Nat) (e : Int) : Binary64 :=
  let size : Int := if m = 0 then 0 else (Nat.toDigits 10 m).length
  if m = 0 then .finite negative 0 (-1074)
  else if size + e > 310 then .infinite negative
  else if size + e < -330 then .finite negative 0 (-1074)
  else ofRatio negative (m * Nat.pow 10 e.toNat) (Nat.pow 10 (-e).toNat)

/-- Numerator and denominator of a finite number's magnitude. -/
def magnitude? : Binary64 → Option (Nat × Nat)
  | .finite _ c e => some (c * Nat.pow 2 e.toNat, Nat.pow 2 (-e).toNat)
  | _ => none

/-- Sum of two numbers that are not negative. -/
def addMagnitudes (x y : Binary64) : Binary64 :=
  match x.magnitude?, y.magnitude? with
  | some (a, b), some (c, d) => ofRatio false (a * d + c * b) (b * d)
  | _, _ => .infinite false

/-- A length of time in seconds: the whole seconds and the rest, each rounded, and their sum. -/
def secondsOfMillis (ms : Nat) : Binary64 :=
  addMagnitudes (ofNat (ms / 1000)) (ofRatio false (ms % 1000) 1000)

end Binary64

end DeviceFleet
