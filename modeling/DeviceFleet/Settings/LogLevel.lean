import DeviceFleet.Text.Blank

/-!
How much a process logs.
-/

namespace DeviceFleet

inductive LogLevel
  | debug
  | info
  | warn
  | error
  deriving DecidableEq, Repr

namespace LogLevel

def name : LogLevel → String
  | .debug => "debug"
  | .info => "info"
  | .warn => "warn"
  | .error => "error"

def all : List LogLevel := [.debug, .info, .warn, .error]

/-- A level's name, in letters of either case and between any white space. -/
def parse? (s : String) : Option LogLevel :=
  all.find? fun l => (Text.trimChars s.toList).map Char.toLower = l.name.toList

end LogLevel

end DeviceFleet
