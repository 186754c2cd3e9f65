/-!
Texts as a terminal shows them: without control characters and control sequences. A sequence begins
with an escape character and goes on up to its final character; one that has none swallows the rest
of the text.
-/

namespace DeviceFleet.Text.Terminal

/-- Where in a control sequence a text is. -/
inductive State
  | ground
  | escape
  | escapeMiddle
  | control
  | deviceStart
  | deviceNumbers
  | deviceMiddle
  | string
  | command
  deriving DecidableEq, Repr

def cancel : Char := '\x18'
def substitute : Char := '\x1a'
def escapeChar : Char := '\x1b'
def bell : Char := '\x07'

/-- The control characters that move on in the text. -/
def isSpacing (c : Char) : Bool := c ∈ ['\t', '\n', '\x0c', '\r']

def isBetween (low high : Nat) (c : Char) : Bool := low ≤ c.toNat && c.toNat ≤ high

/-- Characters that stand in the middle of a sequence. -/
def isMiddle (c : Char) : Bool := isBetween 0x20 0x2F c

/-- Characters that give a sequence its numbers. -/
def isNumbering (c : Char) : Bool := isBetween 0x30 0x3F c

def isFinal (c : Char) : Bool := isBetween 0x40 0x7E c

/-- The byte 0x9C ends a string, also as a part of a character of several bytes. -/
def endsString (c : Char) : Bool :=
  (0x80 ≤ c.toNat && c.toNat % 64 = 0x1C) ||
    (0x800 ≤ c.toNat && c.toNat / 64 % 64 = 0x1C) ||
    (0x10000 ≤ c.toNat && c.toNat / 4096 % 64 = 0x1C)

def afterEscape (c : Char) : State :=
  if isMiddle c then .escapeMiddle
  else if c = '[' then .control
  else if c = ']' then .command
  else if c = 'P' then .deviceStart
  else if c = 'X' ∨ c = '^' ∨ c = '_' then .string
  else if isNumbering c ∨ isFinal c then .ground
  else .escape

/-- The state after a character that is not shown. -/
def next (s : State) (c : Char) : State :=
  match s with
  | .ground => .ground
  | .escape => afterEscape c
  | .escapeMiddle => if isNumbering c ∨ isFinal c then .ground else .escapeMiddle
  | .control => if isFinal c then .ground else .control
  | .deviceStart =>
    if isMiddle c then .deviceMiddle
    else if isNumbering c then .deviceNumbers
    else if isFinal c then .string
    else .deviceStart
  | .deviceNumbers =>
    if isMiddle c then .deviceMiddle
    else if isFinal c ∨ isBetween 0x3C 0x3F c then .string
    else .deviceNumbers
  | .deviceMiddle => if isNumbering c ∨ isFinal c then .string else .deviceMiddle
  | .string => if endsString c then .ground else .string
  | .command => if c = bell then .ground else .command

/-- Whether the character is shown; one that moves on breaks off a short sequence. -/
def isShown (s : State) (c : Char) : Bool :=
  match s with
  | .ground => (0x20 ≤ c.toNat && c.toNat ≠ 0x7F) || isSpacing c
  | .escape | .escapeMiddle | .control => isSpacing c
  | _ => false

def shownFrom (s : State) : List Char → List Char
  | [] => []
  | c :: r =>
    if c = cancel ∨ c = substitute then shownFrom .ground r
    else if c = escapeChar then shownFrom .escape r
    else if isShown s c then c :: shownFrom .ground r
    else shownFrom (next s c) r

def shown (s : String) : String := String.ofList (shownFrom .ground s.toList)

end DeviceFleet.Text.Terminal
