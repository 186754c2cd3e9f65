import DeviceFleet.Toml.Value

/-!
A document under construction. A table is written by a header, by dotted keys, or as a value on one
line; each may add to a table only as long as that table came about by passing through it.
-/

namespace DeviceFleet.Toml

/-- One part of a key, with its place. -/
structure Part where
  name : String
  place : Nat
  deriving DecidableEq, Repr

/-- A key: the tables it leads through, and its own name. -/
structure Key where
  path : List Part
  last : Part
  deriving DecidableEq, Repr

def Key.ofParts? (parts : List Part) : Option Key :=
  parts.getLast?.map fun p => ⟨parts.dropLast, p⟩

/-- How a table came about: by its header, by dotted keys, or because a header led through it. -/
inductive Origin
  | headed
  | dotted
  | passed
  deriving DecidableEq, Repr

/-- What is under a key. A list of tables is never empty. -/
inductive Item
  | value (v : Value)
  | table (origin : Origin) (entries : List (Label × Item))
  | tables (tables : List (List (Label × Item)))

abbrev Tree := List (Label × Item)

namespace Tree

def find? (name : String) : Tree → Option Item
  | [] => none
  | e :: r => if e.1.name = name then some e.2 else find? name r

/-- Puts another item under a key that is there. -/
def replace (name : String) (i : Item) (t : Tree) : Tree :=
  t.map fun e => if e.1.name = name then (e.1, i) else e

def remove (name : String) (t : Tree) : Tree := t.filter fun e => e.1.name ≠ name

def append (l : Label) (i : Item) (t : Tree) : Tree := t ++ [(l, i)]

/-- Changes the last of some tables. -/
def changeLast (f : Tree → Option Tree) : List Tree → Option (List Tree)
  | [] => none
  | [t] => (f t).map fun t => [t]
  | t :: r => (changeLast f r).map fun r => t :: r

/-- Follows a path and changes the table at its end, of which it tells whether dotted keys made it.
Tables on the way that are missing come about with the given origin; dotted keys may not lead
through a table that has a header. -/
def descend (origin : Origin) (change : Bool → Tree → Option Tree) :
    List Part → Bool → Tree → Option Tree
  | [], isDotted, t => change isDotted t
  | p :: path, _, t =>
    match t.find? p.name with
    | none => do
      let inner ← descend origin change path (origin = .dotted) []
      some (t.append ⟨p.name, p.place, p.place⟩ (.table origin inner))
    | some (.table o entries) =>
      if origin = .dotted ∧ o = .headed then none
      else do
        let inner ← descend origin change path (o = .dotted) entries
        some (t.replace p.name (.table o inner))
    | some (.tables ts) => do
      let ts ← changeLast (descend origin change path false) ts
      some (t.replace p.name (.tables ts))
    | some (.value _) => none

/-- The table at the end of a path, of a list its last one. -/
def follow : List Part → Tree → Option Tree
  | [], t => some t
  | p :: path, t =>
    match t.find? p.name with
    | some (.table _ entries) => follow path entries
    | some (.tables ts) => ts.getLast?.bind (follow path)
    | _ => none

/-- The entries of a table that headers only led through. -/
def passedEntries (k : Key) (t : Tree) : Tree :=
  match (follow k.path t).bind (find? k.last.name) with
  | some (.table .passed entries) => entries
  | _ => []

/-- Adds a value under a key that is free; dotted keys add only to tables of dotted keys. -/
def put (k : Key) (valueAt : Nat) (v : Value) (t : Tree) : Option Tree :=
  descend .dotted (fun isDotted t =>
    if (!k.path.isEmpty && !isDotted) || (t.find? k.last.name).isSome then none
    else some (t.append ⟨k.last.name, k.last.place, valueAt⟩ (.value v))) k.path false t

mutual

def toValue : Item → Value
  | .value v => v
  | .table _ entries => .table (entriesOf entries)
  | .tables ts => .array (valuesOf ts)

def entriesOf : List (Label × Item) → List Entry
  | [] => []
  | (l, i) :: r => (l, toValue i) :: entriesOf r

def valuesOf : List (List (Label × Item)) → List Value
  | [] => []
  | t :: r => .table (entriesOf t) :: valuesOf r

end

def toEntries (t : Tree) : List Entry := entriesOf t

end Tree

/-- The table a header opened: where it goes, and whether as one more of a list. -/
structure Opened where
  key : Key
  place : Nat
  isItem : Bool

/-- All closed tables, and the table that takes the next entries. -/
structure Builder where
  root : Tree
  opened : Option Opened
  current : Tree

namespace Builder

def empty : Builder := ⟨[], none, []⟩

/-- Puts the open table into its place. -/
def close (b : Builder) : Option Tree :=
  match b.opened with
  | none => some b.current
  | some o =>
    let name := o.key.last.name
    let label : Label := ⟨name, o.key.last.place, o.place⟩
    Tree.descend .passed (fun _ t =>
      if o.isItem then
        match t.find? name with
        | some (.tables ts) => some (t.replace name (.tables (ts ++ [b.current])))
        | some _ => none
        | none => some (t.append label (.tables [b.current]))
      else some (t.append label (.table .headed b.current))) o.key.path false b.root

def put (k : Key) (valueAt : Nat) (v : Value) (b : Builder) : Option Builder := do
  let current ← b.current.put k valueAt v
  some { b with current }

/-- Opens a table that is new, or one that headers only led through, which then moves to the end. -/
def openTable (k : Key) (place : Nat) (b : Builder) : Option Builder := do
  let root ← b.close
  let entries := root.passedEntries k
  let root ← Tree.descend .passed (fun _ t =>
    match t.find? k.last.name with
    | none => some t
    | some (.table .passed _) => some (t.remove k.last.name)
    | some _ => none) k.path false root
  some ⟨root, some ⟨k, place, false⟩, entries⟩

/-- Opens one more table of a list. -/
def openItem (k : Key) (place : Nat) (b : Builder) : Option Builder := do
  let root ← b.close
  let root ← Tree.descend .passed (fun _ t =>
    match t.find? k.last.name with
    | none => some t
    | some (.tables _) => some t
    | some _ => none) k.path false root
  some ⟨root, some ⟨k, place, true⟩, []⟩

end Builder

end DeviceFleet.Toml
