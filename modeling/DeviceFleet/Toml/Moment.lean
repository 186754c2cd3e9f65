import DeviceFleet.Text.Decimal
import DeviceFleet.Toml.Reader

/-!
Dates and times, and the one way in which they are written back: a capital T between date and
time, no zeros at the end of a fraction, and no more than nine digits of it.
-/

namespace DeviceFleet.Toml

/-- A number of exactly so many digits within bounds. -/
def fixedNumber (digits low high : Nat) (s : List Char) : Outcome (Nat × Rest) :=
  let ds := s.take digits
  if ds.length = digits ∧ ds.all Text.Decimal.isDigit then
    let n := Text.Decimal.value ds
    if low ≤ n ∧ n ≤ high then .ok (n, s.drop digits) else fail s
  else fail s

def isLeapYear (y : Nat) : Bool := y % 4 = 0 && (y % 100 ≠ 0 || y % 400 = 0)

def daysIn (year month : Nat) : Nat :=
  if month = 2 then (if isLeapYear year then 29 else 28)
  else if month ∈ [4, 6, 9, 11] then 30 else 31

def padded (width n : Nat) : List Char :=
  let ds := Text.Decimal.digits n
  List.replicate (width - ds.length) '0' ++ ds

def date (s : List Char) : Outcome (List Char × Rest) := do
  let (y, s) ← fixedNumber 4 0 9999 s
  let (_, s) ← symbol '-' s
  let (m, s) ← fixedNumber 2 1 12 s
  let (_, s) ← symbol '-' s
  let (d, r) ← fixedNumber 2 1 31 s
  if d > daysIn y m then fail s
  else .ok (padded 4 y ++ ['-'] ++ padded 2 m ++ ['-'] ++ padded 2 d, r)

def trimZeros (ds : List Char) : List Char := (ds.reverse.dropWhile (· = '0')).reverse

/-- The fraction of a second with its point; one of zeros only is dropped. -/
def secondFraction : List Char → List Char × List Char
  | '.' :: c :: r =>
    if Text.Decimal.isDigit c then
      let ds := (c :: r).takeWhile Text.Decimal.isDigit
      let kept := trimZeros (ds.take 9)
      (if kept.isEmpty then [] else '.' :: kept, (c :: r).dropWhile Text.Decimal.isDigit)
    else ([], '.' :: c :: r)
  | s => ([], s)

def time (s : List Char) : Outcome (List Char × Rest) := do
  let (h, s) ← fixedNumber 2 0 23 s
  let (_, s) ← symbol ':' s
  let (m, s) ← fixedNumber 2 0 59 s
  let (_, s) ← symbol ':' s
  let (sec, s) ← fixedNumber 2 0 60 s
  let (frac, s) := secondFraction s
  .ok (padded 2 h ++ [':'] ++ padded 2 m ++ [':'] ++ padded 2 sec ++ frac, s)

/-- The distance from universal time, if one is there. -/
def offset : List Char → Outcome (List Char × Rest)
  | c :: r =>
    if c = 'Z' ∨ c = 'z' then .ok (['Z'], r)
    else if c = '+' ∨ c = '-' then do
      let (h, r) ← fixedNumber 2 0 23 r
      let (_, r) ← symbol ':' r
      let (m, r) ← fixedNumber 2 0 59 r
      let sign := if c = '-' ∧ (h ≠ 0 ∨ m ≠ 0) then '-' else '+'
      .ok (sign :: padded 2 h ++ [':'] ++ padded 2 m, r)
    else .ok ([], c :: r)
  | [] => .ok ([], [])

/-- Whether so many digits and then a mark come next. -/
def startsWith (digits : Nat) (mark : Char) (s : List Char) : Bool :=
  (s.takeWhile Text.Decimal.isDigit).length = digits && s[digits]? = some mark

def startsTime (s : List Char) : Bool :=
  startsWith 2 ':' s && Text.Decimal.value (s.take 2) < 24

/-- Whether the text goes on like a date, or with an hour of a day; from there on it must be a date
or a time. -/
def looksLikeMoment (s : List Char) : Bool := startsWith 4 '-' s || startsTime s

/-- The time after a date, with its distance from universal time; none if no time follows. -/
def timeAfterDate : List Char → Outcome (List Char × Rest)
  | c :: r =>
    if (c = 'T' ∨ c = 't' ∨ c = ' ') ∧ startsTime r then do
      let (t, r) ← time r
      let (o, r) ← offset r
      .ok ('T' :: t ++ o, r)
    else .ok ([], c :: r)
  | [] => .ok ([], [])

def moment (s : List Char) : Outcome (Value × Rest) :=
  commit (if startsTime s then do
    let (t, r) ← time s
    .ok (.moment (String.ofList t), r)
  else do
    let (d, r) ← date s
    let (t, r) ← timeAfterDate r
    .ok (.moment (String.ofList (d ++ t)), r))

end DeviceFleet.Toml
