import DeviceFleet.Toml.Moment
import DeviceFleet.Toml.Number
import DeviceFleet.Toml.Text
import DeviceFleet.Toml.Tree

/-!
The grammar of a document: keys, values, and the statements of which a text consists. Values nest
no deeper than 79, and a key has fewer than 80 parts.
-/

namespace DeviceFleet.Toml

def depthLimit : Nat := 80

def isBareKeyChar (c : Char) : Bool :=
  ('a' ≤ c && c ≤ 'z') || ('A' ≤ c && c ≤ 'Z') || Text.Decimal.isDigit c || c = '_' || c = '-'

def simpleKey (s : List Char) : Outcome (String × Rest) :=
  match s with
  | '"' :: _ => shortText s
  | '\'' :: _ => shortText s
  | _ =>
    let k := s.takeWhile isBareKeyChar
    if k.isEmpty then refuse s else .ok (String.ofList k, s.drop k.length)

/-- The parts of a key between dots, with the blanks around them; a dot without a part after it is
left. `size` is the length of the whole text, from which the places of the parts follow. -/
def keyParts (size : Nat) : Nat → List Char → Outcome (List Part × Rest)
  | 0, s => fail s
  | n + 1, s => do
    let s := skipBlank s
    let (name, r) ← simpleKey s
    let part : Part := ⟨name, size - s.length⟩
    match skipBlank r with
    | '.' :: r =>
      match keyParts size n r with
      | .ok (parts, r) => .ok (part :: parts, r)
      | .error f => if f.isFinal then .error f else .ok ([part], '.' :: r)
    | r => .ok ([part], r)

def key (size : Nat) (s : List Char) : Outcome (Key × Rest) := do
  let (parts, r) ← keyParts size (s.length + 1) s
  match Key.ofParts? parts with
  | some k => if parts.length < depthLimit then .ok (k, r) else refuse s
  | none => refuse s

def boolean (s : List Char) : Outcome (Value × Rest) :=
  match word? "true".toList s with
  | some r => .ok (.boolean true, r)
  | none =>
    match word? "false".toList s with
    | some r => .ok (.boolean false, r)
    | none => fail s

/-- A value that holds no others. -/
def scalar (s : List Char) : Outcome (Value × Rest) :=
  match s with
  | [] => refuse []
  | c :: _ =>
    if c = '"' ∨ c = '\'' then do
      let (t, r) ← text s
      .ok (.text t, r)
    else if c = 't' ∨ c = 'f' then boolean s
    else if looksLikeMoment s then moment s
    else if Text.Decimal.isDigit c ∨ c ∈ ['+', '-', 'i', 'n'] then number s
    else refuse s

/-- A key with its value, and where the value begins. -/
structure Pair where
  key : Key
  valueAt : Nat
  value : Value

def putAll : List Pair → Tree → Option Tree
  | [], t => some t
  | p :: ps, t => (t.put p.key p.valueAt p.value).bind (putAll ps)

mutual

/-- `depth` is how deep values may still nest, `fuel` the length of the text or more. -/
def value (size depth : Nat) : Nat → List Char → Outcome (Value × Rest)
  | 0, s => fail s
  | fuel + 1, s =>
    match s with
    | '[' :: r =>
      if depth = 0 then fail s
      else do
        let (vs, r) ← items size (depth - 1) fuel r
        .ok (.array vs, r)
    | '\x7b' :: r =>
      if depth = 0 then fail s
      else do
        let (ps, rest) ← pairs size (depth - 1) fuel r
        match putAll ps [] with
        | some tree => do
          let (_, rest) ← commit (symbol '\x7d' (skipBlank rest))
          .ok (.table tree.toEntries, rest)
        | none => fail r
    | _ => scalar s

/-- The rest of an array; a comma may stand after its last item. -/
def items (size depth : Nat) : Nat → List Char → Outcome (List Value × Rest)
  | 0, s => fail s
  | fuel + 1, s => do
    match ← commit (skipLines (s.length + 1) s) with
    | ']' :: r => .ok ([], r)
    | s => do
      let (v, r) ← backTo s (do
        let (v, r) ← value size depth fuel s
        .ok (v, ← skipLines (r.length + 1) r))
      match r with
      | ']' :: r => .ok ([v], r)
      | ',' :: r => do
        let (vs, r) ← items size depth fuel r
        .ok (v :: vs, r)
      | r => fail r

/-- The pairs of an inline table, as far as they go; a comma without a key after it is left. -/
def pairs (size depth : Nat) : Nat → List Char → Outcome (List Pair × Rest)
  | 0, s => fail s
  | fuel + 1, s =>
    match key size s with
    | .error f => if f.isFinal then .error f else .ok ([], s)
    | .ok (k, r) => do
      let (_, r) ← commit (symbol '=' r)
      let r := skipBlank r
      let (v, rest) ← commit (value size depth fuel r)
      let p : Pair := ⟨k, size - r.length, v⟩
      match skipBlank rest with
      | ',' :: r => do
        let (ps, after) ← pairs size depth fuel r
        .ok (p :: ps, if ps.isEmpty then ',' :: r else after)
      | r => .ok ([p], r)

end

inductive Statement
  | pair (p : Pair)
  | header (key : Key) (place : Nat)
  | listHeader (key : Key) (place : Nat)

def pairStatement (size : Nat) (s : List Char) : Outcome (Statement × Rest) := do
  let (k, r) ← key size s
  let (_, r) ← symbol '=' r
  let r := skipBlank r
  let (v, rest) ← value size (depthLimit - 1) (2 * r.length + 2) r
  .ok (.pair ⟨k, size - r.length, v⟩, ← lineEnd rest)

/-- A header in brackets, or in double ones; a bracket with nothing after it is no header. -/
def headerStatement (size : Nat) (s : List Char) : Outcome (Statement × Rest) :=
  match s with
  | '[' :: '[' :: r => do
    let (k, r) ← key size r
    match r with
    | ']' :: ']' :: r => .ok (.listHeader k (size - s.length), ← lineEnd r)
    | r => fail r
  | '[' :: c :: r => do
    let (k, r) ← key size (c :: r)
    let (_, r) ← symbol ']' r
    .ok (.header k (size - s.length), ← lineEnd r)
  | s => fail s

def Builder.take (b : Builder) : Statement → Option Builder
  | .pair p => b.put p.key p.valueAt p.value
  | .header k place => b.openTable k place
  | .listHeader k place => b.openItem k place

/-- Statement after statement; one that contradicts those before it fails where it begins. -/
def statements (size : Nat) : Nat → Builder → List Char → Outcome Tree
  | 0, _, s => fail s
  | fuel + 1, b, s =>
    match skipComment (skipBlank s) with
    | [] => match b.close with
      | some tree => .ok tree
      | none => fail []
    | c :: r =>
      match newline? (c :: r) with
      | some r => statements size fuel b r
      | none => do
        let read := if c = '[' then headerStatement else pairStatement
        let (st, rest) ← read size (c :: r)
        match b.take st with
        | some b => statements size fuel b rest
        | none => fail (c :: r)

/-- A byte order mark at the start counts for nothing. -/
def dropMark : List Char → List Char
  | '\uFEFF' :: r => r
  | s => s

/-- The entries of a document, or the place at which the text is none. -/
def parse (text : String) : Except Nat Document :=
  let s := dropMark text.toList
  match statements text.length (s.length + 1) .empty s with
  | .ok tree => .ok tree.toEntries
  | .error f => .error (text.length - f.rest.length)

end DeviceFleet.Toml
