import DeviceFleet.Text.Blank
import DeviceFleet.Text.Cut
import DeviceFleet.Text.Decimal

/-!
Ports, and addresses that end in one.
-/

namespace DeviceFleet

/-- A port is a run of decimal digits, between any white space, with a value that fits 16 bits.
Zero stands for any free port. -/
def readPort (s : String) : Option UInt16 :=
  let ds := Text.trimChars s.toList
  if ds.isEmpty || !ds.all Text.Decimal.isDigit then none
  else if Text.Decimal.value ds < UInt16.size then some (UInt16.ofNat (Text.Decimal.value ds))
  else none

/-- A host, a colon, and a port other than zero; the last colon divides them. -/
def isHostPort (s : String) : Bool :=
  match Text.cutLast ':' (Text.trimChars s.toList) with
  | some (host, port) => !host.isEmpty && (readPort (String.ofList port)).any (· ≠ 0)
  | none => false

end DeviceFleet
