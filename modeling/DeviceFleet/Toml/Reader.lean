import DeviceFleet.Toml.Value

/-!
Readers of TOML text. A reader gives what it read and the characters it left; one that fails tells
the characters it failed at, and so the place, and whether the fault is final. After a fault that is
not, the caller may go back to where it was and read on in another way.
-/

namespace DeviceFleet.Toml

/-- The characters a reader leaves. -/
abbrev Rest := List Char

structure Fault where
  rest : Rest
  isFinal : Bool
  deriving DecidableEq, Repr

abbrev Outcome := Except Fault

def refuse (s : Rest) : Outcome α := .error ⟨s, false⟩

def fail (s : Rest) : Outcome α := .error ⟨s, true⟩

/-- Makes every fault final. -/
def commit : Outcome α → Outcome α
  | .ok a => .ok a
  | .error f => fail f.rest

/-- Makes every fault final; one that was not is moved back to the given place. -/
def backTo (s : Rest) : Outcome α → Outcome α
  | .ok a => .ok a
  | .error f => fail (if f.isFinal then f.rest else s)

def symbol (c : Char) : List Char → Outcome (Unit × Rest)
  | d :: r => if c = d then .ok ((), r) else refuse (d :: r)
  | [] => refuse []

def isNarrow (c : Char) : Bool := c.toNat < 128

def isBlank (c : Char) : Bool := c = ' ' || c = '\t'

def skipBlank (s : List Char) : List Char := s.dropWhile isBlank

/-- Tab, and every visible or non-ASCII character. -/
def isPlain (c : Char) : Bool := c = '\t' || (0x20 ≤ c.toNat && c.toNat ≠ 0x7F)

/-- A line feed, alone or after a carriage return. -/
def newline? : List Char → Option (List Char)
  | '\n' :: r => some r
  | '\r' :: '\n' :: r => some r
  | _ => none

def skipComment : List Char → List Char
  | '#' :: r => r.dropWhile isPlain
  | s => s

/-- What may end a line after a statement: blanks, a comment, and a line end or the end of all. -/
def lineEnd (s : List Char) : Outcome Rest :=
  let s := skipComment (skipBlank s)
  match s with
  | [] => .ok []
  | _ => match newline? s with
    | some r => .ok r
    | none => fail s

/-- Skips blanks, line ends and comments, as may stand inside an array. A comment must end with its
line, and a carriage return must belong to a line end; the fault is just after what breaks this. -/
def skipLines : Nat → List Char → Outcome Rest
  | 0, s => .ok s
  | n + 1, s =>
    let start := skipBlank s
    let s := skipComment start
    match newline? s, s with
    | some r, _ => skipLines n r
    | none, [] => if start.isEmpty then .ok [] else refuse []
    | none, c :: r => if c = '\r' ∨ start.head? = some '#' then refuse r else .ok (c :: r)

def hexDigit? (c : Char) : Option Nat :=
  if '0' ≤ c ∧ c ≤ '9' then some (c.toNat - 48)
  else if 'a' ≤ c ∧ c ≤ 'f' then some (c.toNat - 87)
  else if 'A' ≤ c ∧ c ≤ 'F' then some (c.toNat - 55)
  else none

end DeviceFleet.Toml
