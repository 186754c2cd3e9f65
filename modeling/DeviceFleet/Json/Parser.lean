import DeviceFleet.Json.Value
import DeviceFleet.Text.Decimal
import DeviceFleet.Text.Hex

/-!
Reading JSON text. A reader takes the characters at hand and gives a value with the characters it
left; what nests carries a bound on its depth, which the length of the text always meets.
-/

namespace DeviceFleet.Json.Parser

def isSpace (c : Char) : Bool := c = ' ' || c = '\t' || c = '\n' || c = '\r'

def skipSpace (s : List Char) : List Char := s.dropWhile isSpace

def nibble? (c : Char) : Option Nat :=
  if 'A' ≤ c ∧ c ≤ 'F' then some (c.toNat - 55) else Text.Hex.digit? c

def fourDigits : List Char → Option (Nat × List Char)
  | a :: b :: c :: d :: r => do
    let a ← nibble? a
    let b ← nibble? b
    let c ← nibble? c
    let d ← nibble? d
    some (4096 * a + 256 * b + 16 * c + d, r)
  | _ => none

/-- The code point after a backslash and `u`; one outside the basic plane is a pair of codes. -/
def codePoint (s : List Char) : Option (Char × List Char) := do
  let (high, r) ← fourDigits s
  if 0xD800 ≤ high ∧ high < 0xDC00 then
    match r with
    | '\\' :: 'u' :: r =>
      let (low, r) ← fourDigits r
      if 0xDC00 ≤ low ∧ low < 0xE000 then
        some (Char.ofNat (0x10000 + 1024 * (high - 0xD800) + (low - 0xDC00)), r)
      else none
    | _ => none
  else if 0xDC00 ≤ high ∧ high < 0xE000 then none
  else some (Char.ofNat high, r)

def simpleEscape? (c : Char) : Option Char :=
  match c with
  | '"' => some '"'
  | '\\' => some '\\'
  | '/' => some '/'
  | 'b' => some '\x08'
  | 'f' => some '\x0c'
  | 'n' => some '\n'
  | 'r' => some '\r'
  | 't' => some '\t'
  | _ => none

/-- The rest of a text after its opening quote; the characters so far are in reverse. -/
def textRest : Nat → List Char → List Char → Option (String × List Char)
  | 0, _, _ => none
  | _ + 1, _, [] => none
  | _ + 1, done, '"' :: r => some (String.ofList done.reverse, r)
  | n + 1, done, '\\' :: 'u' :: r => do
    let (c, r) ← codePoint r
    textRest n (c :: done) r
  | n + 1, done, '\\' :: c :: r => do
    let c ← simpleEscape? c
    textRest n (c :: done) r
  | n + 1, done, c :: r => if c.toNat < 0x20 then none else textRest n (c :: done) r

structure Numeral where
  negative : Bool
  whole : List Char
  fraction : Option (List Char)
  exponent : Option Int

def exponent? (s : List Char) : Option (Option Int × List Char) :=
  match s with
  | c :: r =>
    if c = 'e' ∨ c = 'E' then
      let (negative, r) := match r with
        | '-' :: r => (true, r)
        | '+' :: r => (false, r)
        | r => (false, r)
      let ds := r.takeWhile Text.Decimal.isDigit
      if ds.isEmpty then none
      else
        let n : Int := Text.Decimal.value ds
        some (some (if negative then -n else n), r.dropWhile Text.Decimal.isDigit)
    else some (none, c :: r)
  | [] => some (none, [])

def fraction? (s : List Char) : Option (Option (List Char) × List Char) :=
  match s with
  | '.' :: r =>
    let ds := r.takeWhile Text.Decimal.isDigit
    if ds.isEmpty then none else some (some ds, r.dropWhile Text.Decimal.isDigit)
  | s => some (none, s)

def numeral? (s : List Char) : Option (Numeral × List Char) := do
  let (negative, s) := match s with
    | '-' :: r => (true, r)
    | r => (false, r)
  let whole := s.takeWhile Text.Decimal.isDigit
  if whole.isEmpty ∨ (whole.head? = some '0' ∧ whole.length > 1) then none
  let (fraction, s) ← fraction? (s.dropWhile Text.Decimal.isDigit)
  let (exponent, s) ← exponent? s
  some (⟨negative, whole, fraction, exponent⟩, s)

/-- A whole number that fits is exact; minus zero and all others are double-precision. -/
def Numeral.value (n : Numeral) : Json :=
  let fraction := n.fraction.getD []
  let m := Text.Decimal.value (n.whole ++ fraction)
  let inexact : Json :=
    .number (Binary64.ofDecimal n.negative m (n.exponent.getD 0 - fraction.length))
  if n.fraction.isSome || n.exponent.isSome then inexact
  else if n.negative then
    if m = 0 ∨ m > 9223372036854775808 then inexact else .integer (-m)
  else if m < UInt64.size then .integer m
  else inexact

def word? (s : List Char) : Option (Json × List Char) :=
  match s with
  | 'n' :: 'u' :: 'l' :: 'l' :: r => some (.null, r)
  | 't' :: 'r' :: 'u' :: 'e' :: r => some (.boolean true, r)
  | 'f' :: 'a' :: 'l' :: 's' :: 'e' :: r => some (.boolean false, r)
  | _ => none

mutual

def value : Nat → List Char → Option (Json × List Char)
  | 0, _ => none
  | n + 1, s =>
    match skipSpace s with
    | '"' :: r => (textRest (r.length + 1) [] r).map fun p => (.text p.1, p.2)
    | '[' :: r =>
      match skipSpace r with
      | ']' :: r => some (.list [], r)
      | r => (items n r).map fun p => (.list p.1, p.2)
    | '\x7b' :: r =>
      match skipSpace r with
      | '\x7d' :: r => some (.object [], r)
      | r => (fields n [] r).map fun p => (.object p.1, p.2)
    | r =>
      match word? r with
      | some p => some p
      | none => (numeral? r).map fun p => (p.1.value, p.2)

def items : Nat → List Char → Option (List Json × List Char)
  | 0, _ => none
  | n + 1, s => do
    let (j, r) ← value n s
    match skipSpace r with
    | ',' :: r => (items n r).map fun p => (j :: p.1, p.2)
    | ']' :: r => some ([j], r)
    | _ => none

def fields : Nat → List (String × Json) → List Char → Option (List (String × Json) × List Char)
  | 0, _, _ => none
  | n + 1, done, s =>
    match skipSpace s with
    | '"' :: r => do
      let (k, r) ← textRest (r.length + 1) [] r
      match skipSpace r with
      | ':' :: r =>
        let (j, r) ← value n r
        match skipSpace r with
        | ',' :: r => fields n (Table.putEntry k j done) r
        | '\x7d' :: r => some (Table.putEntry k j done, r)
        | _ => none
      | _ => none
    | _ => none

end

end Parser

/-- The value a text denotes, with nothing but white space around it. -/
def parse (s : String) : Option Json :=
  match Parser.value (2 * s.length + 2) s.toList with
  | some (j, r) => if (Parser.skipSpace r).isEmpty then some j else none
  | none => none

end DeviceFleet.Json
