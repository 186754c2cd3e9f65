import DeviceFleet.Table
import DeviceFleet.Text.Blank
import DeviceFleet.Text.Cut

/-!
Tag lists: pairs `key=value` between commas. A pair without `=` or without a key is rejected, a
blank one ignored, and of two with one key the later counts.
-/

namespace DeviceFleet

abbrev Tags := Table String

namespace Tags

/-- What a tag list says: its tags, and the pairs that are none. -/
structure Reading where
  tags : Tags
  rejected : List String
  deriving DecidableEq, Repr

/-- One pair between commas, trimmed. -/
inductive Pair
  | blank
  | tag (key value : String)
  | malformed (text : String)
  deriving DecidableEq, Repr

def readPair (segment : List Char) : Pair :=
  let pair := Text.trimChars segment
  if pair.isEmpty then .blank
  else match Text.cutFirst '=' pair with
    | some (k, v) =>
      if (Text.trimChars k).isEmpty then .malformed (String.ofList pair)
      else .tag (String.ofList (Text.trimChars k)) (String.ofList (Text.trimChars v))
    | none => .malformed (String.ofList pair)

def Reading.add (r : Reading) : Pair → Reading
  | .blank => r
  | .tag k v => { r with tags := r.tags.insert k v }
  | .malformed p => { r with rejected := r.rejected ++ [p] }

def pairs (s : String) : List Pair := (Text.segments ',' s.toList).map readPair

def read (s : String) : Reading := (pairs s).foldl Reading.add ⟨∅, []⟩

end Tags

end DeviceFleet
