import DeviceFleet.Files.Path
import DeviceFleet.Text.Utf8
import DeviceFleet.Text.Decimal

/-!
A file system: directories and the bytes of files under canonical paths, a directory to start
from, and the ways in which opening, reading and making directories fail.
-/

namespace DeviceFleet.Files

/-- The parts of a path from the root, without dots. -/
abbrev Location := List String

inductive Node
  | file (content : List UInt8)
  | directory
  deriving DecidableEq, Repr

inductive FileError
  | missing
  | denied
  | exists
  | notDirectory
  | isDirectory
  | nameTooLong
  | nulInName
  | notUtf8
  deriving DecidableEq, Repr

def FileError.message : FileError → String
  | .missing => "No such file or directory (os error 2)"
  | .denied => "Permission denied (os error 13)"
  | .exists => "File exists (os error 17)"
  | .notDirectory => "Not a directory (os error 20)"
  | .isDirectory => "Is a directory (os error 21)"
  | .nameTooLong => "File name too long (os error 36)"
  | .nulInName => "file name contained an unexpected NUL byte"
  | .notUtf8 => "stream did not contain valid UTF-8"

structure Tree where
  cwd : Location
  nodes : List (Location × Node)

namespace Tree

def node? (t : Tree) (loc : Location) : Option Node :=
  if loc = [] then some .directory else t.nodes.lookup loc

def put (t : Tree) (loc : Location) (n : Node) : Tree :=
  { t with nodes := (loc, n) :: t.nodes.filter fun e => e.1 ≠ loc }

/-- Where a path leads: to a node, or to a free name in a directory that exists. -/
inductive Target
  | found (loc : Location) (node : Node)
  | free (loc : Location)

/-- Follows the parts of a path; each but the last has to lead to a directory. -/
def follow (t : Tree) (loc : Location) : List (List Char) → Except FileError Target
  | [] => match t.node? loc with
    | some n => .ok (.found loc n)
    | none => .ok (.free loc)
  | p :: rest =>
    match t.node? loc with
    | none => .error .missing
    | some (.file _) => .error .notDirectory
    | some .directory =>
      if p = [] ∨ p = ['.'] then t.follow loc rest
      else if p = ['.', '.'] then t.follow loc.dropLast rest
      else if (String.ofList p).utf8ByteSize > 255 then .error .nameTooLong
      else t.follow (loc ++ [String.ofList p]) rest

/-- Where a path starts, and its parts. -/
def split (t : Tree) (path : String) : Except FileError (Location × List (List Char)) :=
  let s := path.toList
  if s.contains '\x00' then .error .nulInName
  else if s.isEmpty then .error .missing
  else if path.utf8ByteSize > 4095 then .error .nameTooLong
  else
    match s with
    | '/' :: r => .ok ([], Text.segments '/' r)
    | _ => .ok (t.cwd, Text.segments '/' s)

/-- A slash at the end asks for a directory; the free name stays free. -/
def resolve (t : Tree) (path : String) : Except FileError Target := do
  let (start, parts) ← t.split path
  match parts.getLast? with
  | some [] =>
    match t.follow start parts.dropLast with
    | .ok (.found _ (.file _)) => .error .notDirectory
    | r => r
  | _ => t.follow start parts

/-- The parts up to the last that is not empty. -/
def namedParts (parts : List (List Char)) : List (List Char) :=
  (parts.reverse.dropWhile (·.isEmpty)).reverse

def isDirectory (t : Tree) (path : String) : Bool :=
  match t.resolve path with
  | .ok (.found _ .directory) => true
  | _ => false

def read (t : Tree) (path : String) : Except FileError (List UInt8) :=
  match t.resolve path with
  | .error e => .error e
  | .ok (.free _) => .error .missing
  | .ok (.found _ .directory) => .error .isDirectory
  | .ok (.found _ (.file content)) => .ok content

def readText (t : Tree) (path : String) : Except FileError String :=
  match t.read path with
  | .error e => .error e
  | .ok content =>
    match Text.Utf8.decode? content with
    | some s => .ok s
    | none => .error .notUtf8

/-- Opens a file for adding at its end; one that is missing is made. After a slash at the end there
is no file to open, whatever the name before it, once that name lies in a directory. -/
def openAppend (t : Tree) (path : String) : Except FileError Tree := do
  let (start, parts) ← t.split path
  if endsInSlash path.toList then
    let _ ← t.follow start ((namedParts parts).dropLast ++ [['.']])
    .error .isDirectory
  else
    match ← t.follow start parts with
    | .found _ .directory => .error .isDirectory
    | .found _ (.file _) => .ok t
    | .free loc => .ok (t.put loc (.file []))

/-- Makes a directory under a free name; slashes at the end do not count. -/
def makeDirectory (t : Tree) (path : String) : Except FileError Tree := do
  let (start, parts) ← t.split path
  match ← t.follow start (namedParts parts) with
  | .found .. => .error .exists
  | .free loc => .ok (t.put loc .directory)

/-- A directory that is there already is as good as one made. -/
def ensureDirectory (t : Tree) (path : String) : Except FileError Tree :=
  match t.makeDirectory path with
  | .ok t => .ok t
  | .error e => if t.isDirectory path then .ok t else .error e

def pathOfParts (root : List Char) (parts : List (List Char)) : String :=
  String.ofList (parts.foldl joinPart root)

/-- Makes a directory and all that are missing above it. `above` has the parts of the path but the
last, in reverse. -/
def makeParents (root : List Char) : List (List Char) → Tree → Except FileError Tree
  | [], t => t.ensureDirectory (String.ofList root)
  | p :: above, t =>
    match t.ensureDirectory (pathOfParts root (p :: above).reverse) with
    | .error .missing =>
      match makeParents root above t with
      | .ok t => t.ensureDirectory (pathOfParts root (p :: above).reverse)
      | .error e => .error e
    | r => r

/-- Makes the directory of an absolute path with all that lead to it. -/
def makeDirectories (t : Tree) (path : String) : Except FileError Tree :=
  match t.ensureDirectory path with
  | .error .missing =>
    match makeParents (rootOf [] path.toList) (pathParts path.toList).dropLast.reverse t with
    | .ok t => t.ensureDirectory path
    | .error e => .error e
  | r => r

end Tree

end DeviceFleet.Files
