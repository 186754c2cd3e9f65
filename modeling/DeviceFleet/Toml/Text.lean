import DeviceFleet.Toml.Reader

/-!
The four kinds of strings: with or without escapes, on one line or on several. Line ends inside a
string read as line feeds, and one directly after the opening quotes is dropped.
-/

namespace DeviceFleet.Toml

/-- The code point that so many hexadecimal digits denote. -/
def codePoint (digits : Nat) (s : List Char) : Outcome (Char × Rest) :=
  let ds := (s.take digits).takeWhile fun c => (hexDigit? c).isSome
  let n := ds.foldl (fun n c => 16 * n + (hexDigit? c).getD 0) 0
  if ds.length = digits ∧ n.isValidChar then .ok (Char.ofNat n, s.drop digits) else fail s

/-- What stands after a backslash. An ASCII character that means nothing there is a fault just after
it, any other one at it. -/
def escape : List Char → Outcome (Char × Rest)
  | 'b' :: r => .ok ('\x08', r)
  | 't' :: r => .ok ('\t', r)
  | 'n' :: r => .ok ('\n', r)
  | 'f' :: r => .ok ('\x0c', r)
  | 'r' :: r => .ok ('\r', r)
  | '"' :: r => .ok ('"', r)
  | '\\' :: r => .ok ('\\', r)
  | 'u' :: r => codePoint 4 r
  | 'U' :: r => codePoint 8 r
  | c :: r => fail (if isNarrow c then r else c :: r)
  | [] => refuse []

def asText (done : List Char) : String := String.ofList done.reverse

/-- The rest of a basic string; what was read is in reverse. -/
def basicRest : Nat → List Char → List Char → Outcome (String × Rest)
  | 0, _, s => fail s
  | _ + 1, done, '"' :: r => .ok (asText done, r)
  | n + 1, done, '\\' :: r => do
    let (c, r) ← backTo ('\\' :: r) (escape r)
    basicRest n (c :: done) r
  | n + 1, done, c :: r => if isPlain c then basicRest n (c :: done) r else fail (c :: r)
  | _ + 1, _, [] => fail []

def literalRest : List Char → List Char → Outcome (String × Rest)
  | done, '\'' :: r => .ok (asText done, r)
  | done, c :: r => if isPlain c then literalRest (c :: done) r else fail (c :: r)
  | _, [] => fail []

def skipBlankLines : Nat → List Char → List Char
  | 0, s => s
  | n + 1, s =>
    match newline? (skipBlank s) with
    | some r => skipBlankLines n r
    | none => skipBlank s

/-- After a backslash at a line's end: skips all blanks and line ends. -/
def skipBreak (s : List Char) : Option (List Char) :=
  (newline? (skipBlank s)).map fun r => skipBlankLines (r.length + 1) r

/-- Up to five quotes close a long string; those beyond three belong to it. -/
def closing (quote : Char) (s : List Char) : Option (List Char × List Char) :=
  let n := min 5 (s.takeWhile (· = quote)).length
  if n < 3 then none else some (List.replicate (n - 3) quote, s.drop n)

/-- Quotes that close nothing, and what follows them. -/
def innerQuotes (quote : Char) (s : List Char) : List Char × List Char :=
  (s.takeWhile (· = quote), s.dropWhile (· = quote))

/-- The rest of a long basic string; where it has no end, the fault is at the last quotes. -/
def longBasicRest : Nat → List Char → List Char → Outcome (String × Rest)
  | 0, _, s => fail s
  | _ + 1, _, [] => fail []
  | n + 1, done, c :: r =>
    match closing '"' (c :: r) with
    | some (quotes, rest) => .ok (asText (quotes ++ done), rest)
    | none =>
      if c = '"' then
        let (quotes, after) := innerQuotes '"' (c :: r)
        if after.isEmpty then fail (c :: r) else longBasicRest n (quotes ++ done) after
      else if c = '\\' then
        match skipBreak r with
        | some r => longBasicRest n done r
        | none => do
          let (c, r) ← backTo (c :: r) (escape r)
          longBasicRest n (c :: done) r
      else
        match newline? (c :: r) with
        | some r => longBasicRest n ('\n' :: done) r
        | none => if isPlain c then longBasicRest n (c :: done) r else fail (c :: r)

/-- Whether a long literal string goes on here. -/
def goesOn (s : List Char) : Bool := (newline? s).isSome || s.head?.any isPlain

/-- The rest of a long literal string; a fault directly after quotes is at those quotes. -/
def longLiteralRest : Nat → List Char → List Char → Outcome (String × Rest)
  | 0, _, s => fail s
  | _ + 1, _, [] => fail []
  | n + 1, done, c :: r =>
    match closing '\'' (c :: r) with
    | some (quotes, rest) => .ok (asText (quotes ++ done), rest)
    | none =>
      if c = '\'' then
        let (quotes, after) := innerQuotes '\'' (c :: r)
        if goesOn after then longLiteralRest n (quotes ++ done) after else fail (c :: r)
      else
        match newline? (c :: r) with
        | some r => longLiteralRest n ('\n' :: done) r
        | none => if isPlain c then longLiteralRest n (c :: done) r else fail (c :: r)

def dropNewline (s : List Char) : List Char := (newline? s).getD s

/-- A string of any kind, from its opening quote on. -/
def text : List Char → Outcome (String × Rest)
  | '"' :: '"' :: '"' :: r => longBasicRest (r.length + 1) [] (dropNewline r)
  | '"' :: r => basicRest (r.length + 1) [] r
  | '\'' :: '\'' :: '\'' :: r => longLiteralRest (r.length + 1) [] (dropNewline r)
  | '\'' :: r => literalRest [] r
  | s => refuse s

/-- A string on one line, as a key may be. -/
def shortText : List Char → Outcome (String × Rest)
  | '"' :: r => basicRest (r.length + 1) [] r
  | '\'' :: r => literalRest [] r
  | s => refuse s

end DeviceFleet.Toml
