import DeviceFleet.CommandLine.Parser
import DeviceFleet.Settings.Load

/-!
From flags to settings: defaults of the role, then the settings file, then the flags. The order in
which flags were given does not count.
-/

namespace DeviceFleet.CommandLine.Given

def file? (g : Given) : Option String :=
  match g.lookup .config with
  | some (.file path) => some path
  | _ => none

def setting? (g : Given) (f : Flag) : Option Setting :=
  match g.lookup f with
  | some (.setting s) => some s
  | _ => none

def writes (g : Given) : List Setting := Flag.all.filterMap g.setting?

/-- The settings before the flags; `load` reads a settings file. -/
def base (load : String → Except LoadError FileSettings) (role : Role) (g : Given) :
    Except LoadError Draft :=
  match g.file? with
  | none => .ok (Draft.new role)
  | some path => do .ok ((Draft.new role).applyFile (← load path))

def draft (load : String → Except LoadError FileSettings) (role : Role) (g : Given) :
    Except LoadError Draft := do
  .ok ((← g.base load role).writeAll g.writes)

end DeviceFleet.CommandLine.Given
