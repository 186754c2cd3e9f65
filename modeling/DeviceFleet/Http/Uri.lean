/-!
Request targets: a path with a query, alone or after a scheme and an authority; an authority alone,
which has no path; or a star. What follows `#` does not count.
-/

namespace DeviceFleet.Http

/-- Path and query as they were sent, percent codes included. -/
structure Uri where
  path : String
  query : String
  deriving DecidableEq, Repr

namespace Uri

def isPathChar (c : Char) : Bool := 0x20 < c.toNat && c ∉ ['#', '<', '>', '?', '\x60']

def isQueryChar (c : Char) : Bool := 0x20 < c.toNat && c ∉ ['"', '#', '<', '>']

def isAlphanumeric (c : Char) : Bool :=
  ('0' ≤ c && c ≤ '9') || ('A' ≤ c && c ≤ 'Z') || ('a' ≤ c && c ≤ 'z')

def isSchemeChar (c : Char) : Bool := isAlphanumeric c || c ∈ ['+', '-', '.', '~']

def isAuthorityChar (c : Char) : Bool :=
  isAlphanumeric c || c ∈ "!$&'()*+,-.;=_~".toList

def endsAuthority (c : Char) : Bool := c = '/' || c = '?' || c = '#'

def pathAndQuery (s : List Char) : Option Uri :=
  let s := s.takeWhile (· ≠ '#')
  let path := s.takeWhile (· ≠ '?')
  let query := (s.dropWhile (· ≠ '?')).drop 1
  if path.all isPathChar ∧ query.all isQueryChar then
    some ⟨String.ofList path, String.ofList query⟩
  else none

/-- What counts of an authority so far; user information in front is forgotten at its `@`, and the
address between brackets at the closing one. -/
structure AuthorityScan where
  colons : Nat
  opened : Bool
  closed : Bool
  percent : Bool

def maxColons : Nat := 8

def AuthorityScan.step (s : AuthorityScan) (c : Char) : Option AuthorityScan :=
  if c = ':' then
    if s.colons ≥ maxColons then none else some { s with colons := s.colons + 1 }
  else if c = '[' then
    if s.percent ∨ s.opened then none else some { s with opened := true }
  else if c = ']' then
    if !s.opened ∨ s.closed then none
    else some { s with closed := true, colons := 0, percent := false }
  else if c = '@' then some { s with colons := 0, percent := false }
  else if c = '%' then some { s with percent := true }
  else if isAuthorityChar c then some s
  else none

def isAuthority (s : List Char) : Bool :=
  match s.foldlM AuthorityScan.step ⟨0, false, false, false⟩ with
  | some scan =>
    scan.opened = scan.closed && scan.colons ≤ 1 && !scan.percent && s.getLast? ≠ some '@'
  | none => false

/-- A scheme and what follows its colon and slashes. -/
def splitScheme (s : List Char) : Option (List Char × List Char) :=
  match s.dropWhile isSchemeChar with
  | ':' :: '/' :: '/' :: r => if s.length > 3 then some (s.takeWhile isSchemeChar, r) else none
  | _ => none

def maxSchemeLength : Nat := 64

def absolute (scheme rest : List Char) : Option Uri :=
  let authority := rest.takeWhile (!endsAuthority ·)
  if scheme.length > maxSchemeLength ∨ authority = [] ∨ !isAuthority authority then none
  else
    (pathAndQuery (rest.dropWhile (!endsAuthority ·))).map fun u =>
      if u.path.isEmpty then { u with path := "/" } else u

def maxLength : Nat := 65534

def parse? (text : String) : Option Uri :=
  if text.utf8ByteSize > maxLength then none
  else match text.toList with
    | [] => none
    | '/' :: r => pathAndQuery ('/' :: r)
    | ['*'] => some ⟨"*", ""⟩
    | s => match splitScheme s with
      | some (scheme, rest) => absolute scheme rest
      | none => if isAuthority s then some ⟨"", ""⟩ else none

end Uri

end DeviceFleet.Http
