/-!
UTF-8: the bytes of a text, the text of well-formed bytes, and a reading that puts U+FFFD for
every longest piece that begins a character but does not complete one.
-/

namespace DeviceFleet.Text.Utf8

def bytes (s : String) : List UInt8 := s.toUTF8.toList

def decode? (b : List UInt8) : Option String := String.fromUTF8? ⟨b.toArray⟩

/-- How a first byte goes on: the range of the second byte, and how many more follow it. -/
def continuation? (b : Nat) : Option (Nat × Nat × Nat) :=
  if 0xC2 ≤ b && b ≤ 0xDF then some (0x80, 0xBF, 0)
  else if b = 0xE0 then some (0xA0, 0xBF, 1)
  else if b = 0xED then some (0x80, 0x9F, 1)
  else if 0xE1 ≤ b && b ≤ 0xEF then some (0x80, 0xBF, 1)
  else if b = 0xF0 then some (0x90, 0xBF, 2)
  else if 0xF1 ≤ b && b ≤ 0xF3 then some (0x80, 0xBF, 2)
  else if b = 0xF4 then some (0x80, 0x8F, 2)
  else none

def leadBits (b : Nat) : Nat := if b < 0xE0 then b % 32 else if b < 0xF0 then b % 16 else b % 8

/-- Between characters, or inside one: its bits so far, the range of the next byte, and how many
bytes follow that one. -/
inductive State
  | between
  | inside (bits low high left : Nat)

def replacement : Char := Char.ofNat 0xFFFD

def start (b : Nat) : State × List Char :=
  if b < 0x80 then (.between, [Char.ofNat b])
  else match continuation? b with
    | some (low, high, left) => (.inside (leadBits b) low high left, [])
    | none => (.between, [replacement])

/-- Takes one byte and gives the characters it completes or breaks off. -/
def step : State → Nat → State × List Char
  | .between, b => start b
  | .inside bits low high left, b =>
    if low ≤ b && b ≤ high then
      match left with
      | 0 => (.between, [Char.ofNat (64 * bits + b % 64)])
      | left + 1 => (.inside (64 * bits + b % 64) 0x80 0xBF left, [])
    else ((start b).1, replacement :: (start b).2)

def runLossy : State → List UInt8 → List Char
  | .between, [] => []
  | .inside .., [] => [replacement]
  | q, b :: r => (step q b.toNat).2 ++ runLossy (step q b.toNat).1 r

def decodeLossy (b : List UInt8) : String := String.ofList (runLossy .between b)

end DeviceFleet.Text.Utf8
