/-!
Regular expressions over characters. A search takes the first place at which there is a match, and
of the matches there the one that is preferred: the first of two alternatives before the second,
more repetitions before fewer, or the other way round.
-/

namespace DeviceFleet.Text

abbrev CharSet := Char → Bool

inductive Regex
  | empty
  | one (accepts : CharSet)
  | start (ofLine : Bool)
  | stop (ofLine : Bool)
  | seq (first second : Regex)
  | either (preferred other : Regex)
  | repeated (greedy : Bool) (r : Regex)

namespace Regex

/-- Where a match may begin or end: the character before, and the text after. -/
structure Place where
  before : Option Char
  rest : List Char
  deriving DecidableEq, Repr

def atLeastOnce (greedy : Bool) (r : Regex) : Regex := .seq r (.repeated greedy r)

def optional (greedy : Bool) (r : Regex) : Regex :=
  if greedy then .either r .empty else .either .empty r

/-- Repeats a step from a place to others, the preferred places first. A step that goes nowhere is
the last. -/
def repeatFrom (greedy : Bool) (step : Place → List Place) : Nat → Place → List Place
  | 0, p => [p]
  | n + 1, p =>
    let further := (step p).flatMap fun q =>
      if q.rest.length < p.rest.length then repeatFrom greedy step n q else [q]
    if greedy then further ++ [p] else p :: further

/-- The ends of all matches that begin at a place, the preferred ones first. -/
def ends : Regex → Place → List Place
  | .empty, p => [p]
  | .one accepts, p =>
    match p.rest with
    | c :: r => if accepts c then [⟨some c, r⟩] else []
    | [] => []
  | .start ofLine, p =>
    if p.before.isNone || (ofLine && p.before = some '\n') then [p] else []
  | .stop ofLine, p =>
    if p.rest.isEmpty || (ofLine && p.rest.head? = some '\n') then [p] else []
  | .seq a b, p => ((ends a p).flatMap fun q => ends b q).eraseDups
  | .either a b, p => (ends a p ++ ends b p).eraseDups
  | .repeated greedy r, p =>
    (repeatFrom greedy (fun q => ends r q) p.rest.length p).eraseDups

/-- The end of the match that a search finds. -/
def search (r : Regex) (before : Option Char) : List Char → Option Place
  | [] => (r.ends ⟨before, []⟩).head?
  | c :: s => ((r.ends ⟨before, c :: s⟩).head?).or (search r (some c) s)

/-- Whether the match that a search finds ends where the text ends. -/
def reachesEnd (r : Regex) (s : List Char) : Bool := (r.search none s).any (·.rest.isEmpty)

end Regex

end DeviceFleet.Text
