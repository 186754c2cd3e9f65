import DeviceFleet.Files.Tree
import DeviceFleet.Settings.File
import DeviceFleet.Toml.Parser
import DeviceFleet.Toml.Place

/-!
Settings from a file, or why they cannot be had from it.
-/

namespace DeviceFleet

/-- A text that is no TOML document, or one with a wrong entry; each with its place. -/
inductive FileFlaw
  | notToml (place : Nat)
  | entry (flaw : FileSettings.Flaw)
  deriving DecidableEq, Repr

namespace FileFlaw

def place : FileFlaw → Nat
  | .notToml place => place
  | .entry flaw => flaw.place

/-- What is wrong with an entry; the text of a flaw of the document itself is left open. -/
def reason? : FileFlaw → Option String
  | .notToml _ => none
  | .entry flaw => some flaw.mismatch.message

end FileFlaw

def FileSettings.parse (text : String) : Except FileFlaw FileSettings :=
  match Toml.parse text with
  | .error place => .error (.notToml place)
  | .ok d => (FileSettings.ofDocument d).mapError .entry

inductive LoadError
  | unreadable (path : String) (reason : Files.FileError)
  | malformed (path : String) (text : String) (flaw : FileFlaw)
  deriving DecidableEq, Repr

def FileSettings.load (files : Files.Tree) (path : String) : Except LoadError FileSettings :=
  match files.readText path with
  | .error e => .error (.unreadable path e)
  | .ok text => (FileSettings.parse text).mapError (.malformed path text)

/-- The first line of the message. -/
def LoadError.message : LoadError → String
  | .unreadable path reason => "cannot read " ++ Text.quoted path ++ ": " ++ reason.message
  | .malformed path text flaw =>
    let position := Toml.locate text.toList flaw.place
    "cannot parse " ++ Text.quoted path ++ ": TOML parse error at line " ++
      Text.Decimal.text position.line ++ ", column " ++ Text.Decimal.text position.column

end DeviceFleet
