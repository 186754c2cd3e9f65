/-!
Cutting a text at a separator: into all its segments, or once at the first or the last occurrence.
-/

namespace DeviceFleet.Text

/-- The parts between the separators; one more than there are separators. -/
def segments (sep : Char) : List Char → List (List Char)
  | [] => [[]]
  | c :: r => if c = sep then [] :: segments sep r else (segments sep r).modifyHead (c :: ·)

def cutFirst (sep : Char) : List Char → Option (List Char × List Char)
  | [] => none
  | c :: r => if c = sep then some ([], r) else (cutFirst sep r).map fun p => (c :: p.1, p.2)

def cutLast (sep : Char) (s : List Char) : Option (List Char × List Char) :=
  (cutFirst sep s.reverse).map fun p => (p.2.reverse, p.1.reverse)

end DeviceFleet.Text
