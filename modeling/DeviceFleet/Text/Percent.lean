/-!
Percent encoding: `%` and two hexadecimal digits of either case stand for one byte; a `%` without
them stands for itself. Forms also write a space as `+`.
-/

namespace DeviceFleet.Text.Percent

def nibble? (b : UInt8) : Option Nat :=
  if 48 ≤ b && b ≤ 57 then some (b.toNat - 48)
  else if 65 ≤ b && b ≤ 70 then some (b.toNat - 55)
  else if 97 ≤ b && b ≤ 102 then some (b.toNat - 87)
  else none

def decode : List UInt8 → List UInt8
  | [] => []
  | 37 :: h :: l :: r =>
    match nibble? h, nibble? l with
    | some h, some l => UInt8.ofNat (16 * h + l) :: decode r
    | _, _ => 37 :: decode (h :: l :: r)
  | b :: r => b :: decode r

def decodeForm (b : List UInt8) : List UInt8 := decode (b.map fun c => if c = 43 then 32 else c)

end DeviceFleet.Text.Percent
