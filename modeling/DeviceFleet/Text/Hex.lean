/-!
Bytes written as pairs of lowercase hexadecimal digits. Reading takes lowercase digits only, so
each byte string has one written form.
-/

namespace DeviceFleet.Text.Hex

def digitChar (n : Nat) : Char := if n < 10 then Char.ofNat (48 + n) else Char.ofNat (87 + n)

def digit? (c : Char) : Option Nat :=
  if '0' ≤ c ∧ c ≤ '9' then some (c.toNat - 48)
  else if 'a' ≤ c ∧ c ≤ 'f' then some (c.toNat - 87)
  else none

def encode : List UInt8 → List Char
  | [] => []
  | b :: r => digitChar (b.toNat / 16) :: digitChar (b.toNat % 16) :: encode r

def decode : List Char → Option (List UInt8)
  | [] => some []
  | [_] => none
  | h :: l :: r => do
    let h ← digit? h
    let l ← digit? l
    let bytes ← decode r
    some (UInt8.ofNat (16 * h + l) :: bytes)

/-- The hexadecimal digits of a number, without leading zeros. -/
def digits (n : Nat) : List Char := Nat.toDigits 16 n

end DeviceFleet.Text.Hex
