import DeviceFleet.CommandLine.Flag
import DeviceFleet.Text.Terminal

/-!
Command lines, word by word. A value stands in its flag's word, with or without an equals sign, or
in the next word, which then does not begin with a dash. A value in a word of its own is taken when
the next flag or the end is reached; a word that cannot be is reported before that. Words are
texts: command lines with bytes that are not UTF-8 are left out.
-/

namespace DeviceFleet.CommandLine

inductive Misuse
  | unexpected (word : String)
  | noValue (flag : Flag)
  | invalidValue (value : String) (flag : Flag) (reason : Text.Decimal.Flaw)
  | repeated (flag : Flag)
  | valueFor (switch : Switch) (value : String)
  deriving DecidableEq, Repr

namespace Misuse

/-- Words of the command line appear as a terminal shows them. -/
def text : Misuse → String
  | .unexpected word => "unexpected argument '" ++ Text.Terminal.shown word ++ "' found"
  | .noValue flag => "a value is required for '" ++ flag.usage ++ "' but none was supplied"
  | .invalidValue value flag reason =>
    "invalid value '" ++ Text.Terminal.shown value ++ "' for '" ++ flag.usage ++ "': " ++
      reason.message
  | .repeated flag => "the argument '" ++ flag.usage ++ "' cannot be used multiple times"
  | .valueFor switch value =>
    "unexpected value '" ++ Text.Terminal.shown value ++ "' for '--" ++ switch.long ++
      "' found; no more were expected"

/-- The first line of the message. -/
def message (m : Misuse) : String :=
  "error: " ++ String.ofList (m.text.toList.takeWhile (· ≠ '\n'))

end Misuse

/-- What ends a command line before its settings count. -/
inductive Stop
  | asked (switch : Switch)
  | misused (m : Misuse)
  deriving DecidableEq, Repr

def Stop.exitStatus : Stop → Nat
  | .asked _ => 0
  | .misused _ => 1

/-- The flags taken so far. -/
abbrev Given := List (Flag × Argument)

/-- A flag without its value yet, or with one from a word of its own. -/
structure Pending where
  flag : Flag
  value : Option String
  deriving DecidableEq, Repr

/-- After a word of two dashes no word is a flag or a value. -/
structure State where
  given : Given
  pending : Option Pending
  dashed : Bool
  deriving DecidableEq, Repr

abbrev Parse := Except Stop State

namespace State

def initial : State := ⟨[], none, false⟩

def misuse (m : Misuse) : Except Stop α := .error (.misused m)

def take (f : Flag) (v : String) (s : State) : Parse :=
  if (s.given.lookup f).isSome then misuse (.repeated f)
  else match f.read v with
    | .ok a => .ok { s with given := s.given ++ [(f, a)] }
    | .error .empty => misuse (.noValue f)
    | .error (.notACount reason) => misuse (.invalidValue v f reason)

def settle (s : State) : Parse :=
  match s.pending with
  | none => .ok s
  | some ⟨f, none⟩ => misuse (.noValue f)
  | some ⟨f, some v⟩ => take f v { s with pending := none }

def flag (f : Flag) (attached : Option String) (s : State) : Parse := do
  let s ← s.settle
  match attached with
  | some v => s.take f v
  | none => .ok { s with pending := some ⟨f, none⟩ }

def ask (w : Switch) (s : State) : Parse := do
  let _ ← s.settle
  .error (.asked w)

def longWord (role : Role) (word : List Char) (s : State) : Parse :=
  let (name, value) : List Char × Option (List Char) := match Text.cutFirst '=' word with
    | some (name, value) => (name, some value)
    | none => (word, none)
  let name := String.ofList name
  match Switch.ofLong? name, value with
  | some w, some v => misuse (.valueFor w (String.ofList v))
  | some w, none => s.ask w
  | none, _ =>
    match Flag.ofLong? role name with
    | some f => s.flag f (value.map String.ofList)
    | none => misuse (.unexpected ("--" ++ name))

/-- What follows a short flag in its word is its value. -/
def attachedValue : List Char → Option String
  | [] => none
  | '=' :: v => some (String.ofList v)
  | v => some (String.ofList v)

def shortWord (role : Role) (c : Char) (rest : List Char) (s : State) : Parse :=
  match Switch.ofShort? c with
  | some w => s.ask w
  | none =>
    match Flag.ofShort? role c with
    | some f => s.flag f (attachedValue rest)
    | none => misuse (.unexpected (String.ofList ['-', c]))

def plainWord (word : String) (s : State) : Parse :=
  match s.pending with
  | some ⟨f, none⟩ => .ok { s with pending := some ⟨f, some word⟩ }
  | _ => misuse (.unexpected word)

def step (role : Role) (s : State) (word : String) : Parse :=
  if s.dashed then misuse (.unexpected word)
  else match word.toList with
    | ['-', '-'] => .ok { s with dashed := true }
    | '-' :: '-' :: r => s.longWord role r
    | '-' :: c :: r => s.shortWord role c r
    | _ => s.plainWord word

end State

def parse (role : Role) (words : List String) : Except Stop Given := do
  let s ← words.foldlM (State.step role) .initial
  let s ← s.settle
  .ok s.given

end DeviceFleet.CommandLine
