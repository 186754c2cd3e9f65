import DeviceFleet.Text.Blank
import DeviceFleet.Text.Cut
import DeviceFleet.Text.Decimal
import DeviceFleet.Text.Hex
import DeviceFleet.Text.Regex

/-!
The notation of regular expressions: alternatives, groups, flags, character classes, repetitions
and escapes. Counted repetitions, word boundaries and references back are no part of it, and the
named classes of characters are those of ASCII.
-/

namespace DeviceFleet.Text.Regex

/-- How what follows is to be read. -/
structure Flags where
  ignoresCase : Bool
  linewise : Bool
  dotAll : Bool
  swapsGreed : Bool
  verbose : Bool
  deriving DecidableEq, Repr

namespace Flags

def plain : Flags := ⟨false, false, false, false, false⟩

/-- Sets one flag by its letter; two letters are known and change nothing here. -/
def set? (f : Flags) (value : Bool) (c : Char) : Option Flags :=
  if c = 'i' then some { f with ignoresCase := value }
  else if c = 'm' then some { f with linewise := value }
  else if c = 's' then some { f with dotAll := value }
  else if c = 'U' then some { f with swapsGreed := value }
  else if c = 'x' then some { f with verbose := value }
  else if c = 'u' ∨ c = 'R' then some f
  else none

/-- Letters of flags up to a colon or the end of the group; after a minus they are taken back. Each
letter may stand once, and after a minus there must be one. -/
def read (f : Flags) (value : Bool) (seen : List Char) : List Char → Option (Flags × List Char)
  | [] => none
  | c :: r =>
    if c = ':' ∨ c = ')' then
      if seen.head? = some '-' then none else some (f, c :: r)
    else if c ∈ seen then none
    else if c = '-' then read f false (c :: seen) r
    else (f.set? value c).bind fun f => read f value (c :: seen) r

end Flags

/-- What an escape stands for: one character, or a set of them. -/
inductive Escaped
  | literal (c : Char)
  | set (s : CharSet)

def hexLiteral (digits : Nat) (s : List Char) : Option (Escaped × List Char) :=
  let ds := s.take digits
  match ds.mapM fun c => Hex.digit? c.toLower with
  | some vs =>
    let n := vs.foldl (fun n v => 16 * n + v) 0
    if ds.length = digits ∧ n.isValidChar then some (.literal (Char.ofNat n), s.drop digits)
    else none
  | none => none

def isWordChar (c : Char) : Bool := c.isAlphanum || c = '_'

def isPunct (c : Char) : Bool := 0x21 ≤ c.toNat && c.toNat ≤ 0x7E && !c.isAlphanum

def isSymbol (c : Char) : Bool := c ∈ ['$', '+', '<', '=', '>', '^', Char.ofNat 0x60, '|', '~']

/-- The general categories by their one letter. -/
def category? (c : Char) : Option CharSet :=
  if c = 'L' ∨ c = 'l' then some Char.isAlpha
  else if c = 'N' ∨ c = 'n' then some Decimal.isDigit
  else if c = 'P' ∨ c = 'p' then some fun d => isPunct d && !isSymbol d
  else if c = 'S' ∨ c = 's' then some isSymbol
  else if c = 'Z' ∨ c = 'z' then some (· = ' ')
  else if c = 'C' ∨ c = 'c' then some fun d => d.toNat < 0x20 || d.toNat = 0x7F
  else if c = 'M' ∨ c = 'm' then some fun _ => false
  else none

def opposite (s : CharSet) : CharSet := fun c => !s c

def controlEscapes : List (Char × Char) :=
  [('n', '\n'), ('t', '\t'), ('r', '\r'), ('f', '\x0c'), ('v', '\x0b'), ('a', '\x07')]

/-- What stands after a backslash. -/
def escaped : List Char → Option (Escaped × List Char)
  | [] => none
  | c :: r =>
    if c = 'd' then some (.set Decimal.isDigit, r)
    else if c = 'D' then some (.set (opposite Decimal.isDigit), r)
    else if c = 's' then some (.set isWhite, r)
    else if c = 'S' then some (.set (opposite isWhite), r)
    else if c = 'w' then some (.set isWordChar, r)
    else if c = 'W' then some (.set (opposite isWordChar), r)
    else if c = 'p' then r.head?.bind category? |>.map fun s => (.set s, r.drop 1)
    else if c = 'P' then r.head?.bind category? |>.map fun s => (.set (opposite s), r.drop 1)
    else if c = 'x' then hexLiteral 2 r
    else if c = 'u' then hexLiteral 4 r
    else if c = 'U' then hexLiteral 8 r
    else match controlEscapes.lookup c with
      | some d => some (.literal d, r)
      | none =>
        if c.toNat < 128 ∧ !c.isAlphanum ∧ c ≠ '<' ∧ c ≠ '>' then some (.literal c, r) else none

/-- The classes with names between colons. -/
def namedClass? (name : String) : Option CharSet :=
  if name = "alnum" then some Char.isAlphanum
  else if name = "alpha" then some Char.isAlpha
  else if name = "ascii" then some (·.toNat < 128)
  else if name = "blank" then some fun c => c = ' ' || c = '\t'
  else if name = "cntrl" then some fun c => c.toNat < 0x20 || c.toNat = 0x7F
  else if name = "digit" then some Decimal.isDigit
  else if name = "graph" then some fun c => 0x21 ≤ c.toNat && c.toNat ≤ 0x7E
  else if name = "lower" then some Char.isLower
  else if name = "print" then some fun c => 0x20 ≤ c.toNat && c.toNat ≤ 0x7E
  else if name = "punct" then some isPunct
  else if name = "space" then some fun c => c = ' ' || (0x9 ≤ c.toNat && c.toNat ≤ 0xD)
  else if name = "upper" then some Char.isUpper
  else if name = "word" then some isWordChar
  else if name = "xdigit" then some fun c => (Hex.digit? c.toLower).isSome
  else none

/-- A named class, after its opening bracket. -/
def namedClass : List Char → Option (CharSet × List Char)
  | ':' :: r => do
    let (name, rest) ← cutFirst ':' r
    let rest ← if rest.head? = some ']' then some (rest.drop 1) else none
    match name with
    | '^' :: name => (namedClass? (String.ofList name)).map fun s => (opposite s, rest)
    | name => (namedClass? (String.ofList name)).map fun s => (s, rest)
  | _ => none

def classItem : List Char → Option (Escaped × List Char)
  | '\\' :: r => escaped r
  | c :: r => some (.literal c, r)
  | [] => none

def Escaped.toSet : Escaped → CharSet
  | .literal c => (· = c)
  | .set s => s

/-- One character or class, or a range between two characters. -/
def classRange (s : List Char) : Option (CharSet × List Char) := do
  let (low, r) ← classItem s
  match r with
  | '-' :: c :: r =>
    if c = ']' ∨ c = '-' then some (low.toSet, '-' :: c :: r)
    else do
      let (high, r) ← classItem (c :: r)
      match low, high with
      | .literal a, .literal b => if a ≤ b then some (fun d => a ≤ d && d ≤ b, r) else none
      | _, _ => none
  | r => some (low.toSet, r)

def union (s t : CharSet) : CharSet := fun c => s c || t c

/-- The opening of a class: whether it is negated, and the characters that mean themselves there. -/
def classOpening (s : List Char) : Bool × CharSet × List Char :=
  let (negated, s) := match s with
    | '^' :: r => (true, r)
    | s => (false, s)
  let afterDashes := s.dropWhile (· = '-')
  if afterDashes.length < s.length then (negated, (· = '-'), afterDashes)
  else match s with
    | ']' :: r => (negated, (· = ']'), r)
    | s => (negated, fun _ => false, s)

/-- A class up to its closing bracket. `combine` takes the part since the last operator and gives
the whole. -/
def classRest : Nat → Bool → (CharSet → CharSet) → CharSet → List Char →
    Option (CharSet × List Char)
  | 0, _, _, _, _ => none
  | n + 1, negated, combine, part, s =>
    match s with
    | [] => none
    | ']' :: r => some (if negated then opposite (combine part) else combine part, r)
    | '&' :: '&' :: r =>
      classRest n negated (fun t c => combine part c && t c) (fun _ => false) r
    | '-' :: '-' :: r =>
      classRest n negated (fun t c => combine part c && !t c) (fun _ => false) r
    | '~' :: '~' :: r =>
      classRest n negated (fun t c => combine part c != t c) (fun _ => false) r
    | '[' :: r =>
      match namedClass r with
      | some (s, r) => classRest n negated combine (union part s) r
      | none => do
        let (innerNegated, own, r) := classOpening r
        let (s, r) ← classRest n innerNegated id own r
        classRest n negated combine (union part s) r
    | s => do
      let (t, r) ← classRange s
      classRest n negated combine (union part t) r

def foldCase (s : CharSet) : CharSet := fun c => s c || s c.toLower || s c.toUpper

/-- A class after its opening bracket. The case is ignored before the negation counts. -/
def charClass (f : Flags) (s : List Char) : Option (CharSet × List Char) := do
  let (negated, own, r) := classOpening s
  let (t, r) ← classRest (2 * s.length + 2) false id own r
  let t := if f.ignoresCase then foldCase t else t
  some (if negated then opposite t else t, r)

def item (f : Flags) (s : CharSet) : Regex := .one (if f.ignoresCase then foldCase s else s)

/-- What stands for itself, or is an escape outside a class. -/
def atom (f : Flags) : List Char → Option (Regex × List Char)
  | [] => none
  | '\\' :: 'A' :: r => some (.start false, r)
  | '\\' :: 'z' :: r => some (.stop false, r)
  | '\\' :: r => (escaped r).map fun p => (item f p.1.toSet, p.2)
  | '[' :: r => (charClass f r).map fun p => (.one p.1, p.2)
  | '.' :: r => some (.one fun c => f.dotAll || c ≠ '\n', r)
  | '^' :: r => some (.start f.linewise, r)
  | '$' :: r => some (.stop f.linewise, r)
  | '\x7b' :: _ => none
  | c :: r => some (item f (· = c), r)

/-- In a verbose notation blanks mean nothing, nor does what follows a hash in its line. -/
def skipVerbose (f : Flags) : Nat → List Char → List Char
  | 0, s => s
  | n + 1, s =>
    if f.verbose then
      match s.dropWhile isWhite with
      | '#' :: r => skipVerbose f n (r.dropWhile (· ≠ '\n'))
      | s => s
    else s

def groupName (s : List Char) : Option (List Char) := do
  let (name, r) ← cutFirst '>' s
  let first ← name.head?
  if (first.isAlpha || first = '_') && name.all fun c => isWordChar c || c ∈ ['.', '[', ']'] then
    some r
  else none

/-- A repetition mark, and whether it is greedy. -/
def greed (f : Flags) : List Char → Bool × List Char
  | '?' :: r => (f.swapsGreed, r)
  | s => (!f.swapsGreed, s)

def finish (done : Regex) (last : Option Regex) : Regex :=
  match last with
  | some r => .seq done r
  | none => done

mutual

/-- Branches up to the end of the group or of the text. -/
def branches : Nat → Flags → List Char → Option (Regex × List Char)
  | 0, _, _ => none
  | n + 1, f, s => do
    let (r, f, rest) ← branch n f .empty none s
    match rest with
    | '|' :: rest => do
      let (others, rest) ← branches n f rest
      some (.either r others, rest)
    | rest => some (r, rest)

/-- The rest of a branch. A repetition mark belongs to the last item, if there is one. -/
def branch : Nat → Flags → Regex → Option Regex → List Char →
    Option (Regex × Flags × List Char)
  | 0, _, _, _, _ => none
  | n + 1, f, done, last, s =>
    match skipVerbose f (s.length + 1) s with
    | [] => some (finish done last, f, [])
    | '|' :: r => some (finish done last, f, '|' :: r)
    | ')' :: r => some (finish done last, f, ')' :: r)
    | '*' :: r => do
      let (greedy, r) := greed f r
      branch n f done (some (.repeated greedy (← last))) r
    | '+' :: r => do
      let (greedy, r) := greed f r
      branch n f done (some (atLeastOnce greedy (← last))) r
    | '?' :: r => do
      let (greedy, r) := greed f r
      branch n f done (some (optional greedy (← last))) r
    | '(' :: '?' :: 'P' :: '<' :: r => do
      let (g, r) ← group n f (← groupName r)
      branch n f (finish done last) (some g) r
    | '(' :: '?' :: '<' :: r => do
      let (g, r) ← group n f (← groupName r)
      branch n f (finish done last) (some g) r
    | '(' :: '?' :: r => do
      let (inner, rest) ← f.read true [] r
      match rest with
      | ':' :: rest => do
        let (g, rest) ← group n inner rest
        branch n f (finish done last) (some g) rest
      | rest =>
        if r.head? = some ')' then none
        else branch n inner (finish done last) none (rest.drop 1)
    | '(' :: r => do
      let (g, r) ← group n f r
      branch n f (finish done last) (some g) r
    | s => do
      let (r, rest) ← atom f s
      branch n f (finish done last) (some r) rest

/-- A group after its opening. -/
def group : Nat → Flags → List Char → Option (Regex × List Char)
  | 0, _, _ => none
  | n + 1, f, s => do
    match ← branches n f s with
    | (r, ')' :: rest) => some (r, rest)
    | _ => none

end

def parse? (s : List Char) : Option Regex :=
  match branches (3 * s.length + 3) .plain s with
  | some (r, []) => some r
  | _ => none

end DeviceFleet.Text.Regex
