/-!
Decimal digits, and the reader of 64-bit counts with its three ways to fail.
-/

namespace DeviceFleet.Text.Decimal

def isDigit (c : Char) : Bool := '0' ≤ c && c ≤ '9'

def digit (c : Char) : Nat := c.toNat - '0'.toNat

/-- The number a run of digits denotes, leading zeros included. -/
def value (s : List Char) : Nat := s.foldl (fun n c => 10 * n + digit c) 0

def digits (n : Nat) : List Char := Nat.toDigits 10 n

def text (n : Nat) : String := String.ofList (digits n)

def signedText : Int → String
  | .ofNat n => text n
  | .negSucc n => "-" ++ text (n + 1)

/-- Why a text is not a 64-bit count. -/
inductive Flaw
  | empty
  | invalidDigit
  | tooLarge
  deriving DecidableEq, Repr

def Flaw.message : Flaw → String
  | .empty => "cannot parse integer from empty string"
  | .invalidDigit => "invalid digit found in string"
  | .tooLarge => "number too large to fit in target type"

/-- Reads on from the value so far; the first character that cannot be taken decides the flaw. -/
def readFrom (n : Nat) : List Char → Except Flaw Nat
  | [] => .ok n
  | c :: r =>
    if !isDigit c then .error .invalidDigit
    else if 10 * n + digit c < UInt64.size then readFrom (10 * n + digit c) r
    else .error .tooLarge

/-- A 64-bit count; one plus sign may stand before the digits. -/
def readCount : List Char → Except Flaw Nat
  | [] => .error .empty
  | ['+'] => .error .invalidDigit
  | '+' :: r => readFrom 0 r
  | s => readFrom 0 s

end DeviceFleet.Text.Decimal
