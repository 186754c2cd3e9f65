import DeviceFleet.CommandLine.Flag

/-!
The answers to the two switches.
-/

namespace DeviceFleet.CommandLine

def about : Role → String
  | .central => "Wavefleet control plane"
  | .device => "Wavefleet device agent"

def helpEntry (short : Option Char) (usage purpose : String) : String :=
  let start := match short with
    | some c => "  -" ++ String.singleton c ++ ", "
    | none => "      "
  start ++ usage ++ "\n          " ++ purpose ++ "\n"

def flagHelp (f : Flag) : String := helpEntry f.short? f.usage f.purpose

def switchHelp (s : Switch) : String := helpEntry (some s.short) ("--" ++ s.long) s.purpose

def helpText (role : Role) : String :=
  about role ++ "\n\nUsage: " ++ role.component ++ " [OPTIONS]\n\nOptions:\n" ++
    String.join ((Flag.all.filter (Flag.isKnownTo role)).map flagHelp) ++
    String.join (Switch.all.map switchHelp)

def versionText (role : Role) : String := role.component ++ " " ++ programVersion ++ "\n"

def Switch.answer (role : Role) : Switch → String
  | .help => helpText role
  | .version => versionText role

end DeviceFleet.CommandLine
