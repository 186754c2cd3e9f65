import DeviceFleet.Text.Cut

/-!
Paths as texts; those whose bytes are not UTF-8 are left out. Making one absolute touches no file:
it drops empty parts and single dots, and keeps `..`, a slash at the end, and exactly two slashes at
the start.
-/

namespace DeviceFleet.Files

/-- The parts of a path that name something. -/
def pathParts (path : List Char) : List (List Char) :=
  (Text.segments '/' path).filter fun p => p ≠ [] ∧ p ≠ ['.']

def endsInSlash (path : List Char) : Bool := path.getLast? = some '/'

/-- Adds one part, with a slash between unless the path ends in one. -/
def joinPart (path part : List Char) : List Char :=
  if endsInSlash path then path ++ part else path ++ '/' :: part

def rootOf (cwd path : List Char) : List Char :=
  match path with
  | '/' :: '/' :: '/' :: _ => ['/']
  | '/' :: '/' :: _ => ['/', '/']
  | '/' :: _ => ['/']
  | _ => cwd

def absoluteChars (cwd path : List Char) : List Char :=
  let whole := (pathParts path).foldl joinPart (rootOf cwd path)
  if endsInSlash path then joinPart whole [] else whole

def absolutePath (cwd path : String) : String :=
  String.ofList (absoluteChars cwd.toList path.toList)

end DeviceFleet.Files
