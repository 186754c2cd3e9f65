import DeviceFleet.Text.Decimal

/-!
Socket addresses: a dotted quad and a port, or an address of eight hexadecimal groups in brackets,
with one run of zeros left out, an optional scope, and a port.
-/

namespace DeviceFleet.Net

inductive Host
  | quad (octets : List Nat)
  | groups (words : List Nat) (scope : Nat)
  deriving DecidableEq, Repr

structure SocketAddress where
  host : Host
  port : Nat
  deriving DecidableEq, Repr

namespace SocketAddress

/-- A reader gives what it read and the rest, or nothing. -/
abbrev Reader (α : Type) := List Char → Option (α × List Char)

def hexDigit? (c : Char) : Option Nat :=
  if '0' ≤ c ∧ c ≤ '9' then some (c.toNat - 48)
  else if 'a' ≤ c ∧ c ≤ 'f' then some (c.toNat - 87)
  else if 'A' ≤ c ∧ c ≤ 'F' then some (c.toNat - 55)
  else none

def mark (c : Char) : Reader Unit
  | d :: r => if c = d then some ((), r) else none
  | [] => none

/-- A decimal number of any length up to a bound. -/
def number (bound : Nat) : Reader Nat := fun s =>
  let ds := s.takeWhile Text.Decimal.isDigit
  if ds.isEmpty ∨ Text.Decimal.value ds > bound then none
  else some (Text.Decimal.value ds, s.dropWhile Text.Decimal.isDigit)

/-- One to three digits, without a leading zero, up to 255. -/
def octet : Reader Nat := fun s =>
  let ds := s.takeWhile Text.Decimal.isDigit
  if ds.length > 3 ∨ (ds.head? = some '0' ∧ ds.length > 1) then none else number 255 s

def quad : Reader (List Nat) := fun s => do
  let (a, s) ← octet s
  let (_, s) ← mark '.' s
  let (b, s) ← octet s
  let (_, s) ← mark '.' s
  let (c, s) ← octet s
  let (_, s) ← mark '.' s
  let (d, s) ← octet s
  some ([a, b, c, d], s)

/-- One to four hexadecimal digits. -/
def group : Reader Nat := fun s =>
  let ds := s.takeWhile fun c => (hexDigit? c).isSome
  if ds.isEmpty ∨ ds.length > 4 then none
  else some (ds.foldl (fun n c => 16 * n + (hexDigit? c).getD 0) 0, s.drop ds.length)

def afterColon (first : Bool) (r : Reader α) : Reader α := fun s =>
  if first then r s
  else match mark ':' s with
    | some (_, s) => r s
    | none => none

/-- Up to `room` groups; the last two may be written as a quad. The mark tells whether they were. -/
def groups : Nat → Bool → List Char → List Nat × Bool × List Char
  | 0, _, s => ([], false, s)
  | room + 1, first, s =>
    match if room > 0 then afterColon first quad s else none with
    | some (q, s) =>
      match q with
      | [a, b, c, d] => ([256 * a + b, 256 * c + d], true, s)
      | _ => ([], false, s)
    | none =>
      match afterColon first group s with
      | some (g, s) =>
        let (gs, q, s) := groups room false s
        (g :: gs, q, s)
      | none => ([], false, s)

def sixteenBytes : Reader (List Nat) := fun s =>
  let (head, dotted, s) := groups 8 true s
  if head.length = 8 then some (head, s)
  else if dotted then none
  else do
    let (_, s) ← mark ':' s
    let (_, s) ← mark ':' s
    let (tail, _, s) := groups (7 - head.length) true s
    some (head ++ List.replicate (8 - head.length - tail.length) 0 ++ tail, s)

def scope : Reader Nat := fun s =>
  match s with
  | '%' :: r => number (UInt32.size - 1) r
  | _ => some (0, s)

def portPart : Reader Nat := fun s => do
  let (_, s) ← mark ':' s
  number 65535 s

def quadSocket (s : List Char) : Option SocketAddress := do
  let (q, s) ← quad s
  let (p, s) ← portPart s
  if s.isEmpty then some ⟨.quad q, p⟩ else none

def groupSocket (s : List Char) : Option SocketAddress := do
  let (_, s) ← mark '[' s
  let (g, s) ← sixteenBytes s
  let (z, s) ← scope s
  let (_, s) ← mark ']' s
  let (p, s) ← portPart s
  if s.isEmpty then some ⟨.groups g z, p⟩ else none

def parse? (s : String) : Option SocketAddress :=
  (quadSocket s.toList).or (groupSocket s.toList)

end SocketAddress

end DeviceFleet.Net
