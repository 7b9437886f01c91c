/-
# Loading settings

The configuration is one YAML file. A file that is missing stands for the defaults,
unless it was asked for by name.
-/
import AccessGate.Files
import AccessGate.Settings.Reading
import AccessGate.Yaml.Reader

namespace AccessGate

/-- Why the configuration was not loaded. -/
inductive LoadFault where
  | unreadable (path : String)
  | invalid (path : String)
  deriving DecidableEq, Repr

/-- The wording of a load fault. -/
def LoadFault.message : LoadFault → String
  | .unreadable path => "failed to read config file " ++ path
  | .invalid path => "invalid config file " ++ path

namespace AppSettings

/-- The configuration that a YAML text spells. -/
def ofYaml? (s : String) : Option AppSettings :=
  (Yaml.read? s).bind read?

/-- The configuration in the file at a path, given what the path leads to. -/
def load (path : String) (required : Bool) : FileState → Except LoadFault AppSettings
  | .absent => if required then .error (.unreadable path) else .ok {}
  | .unreadable => .error (.unreadable path)
  | .text s =>
      match ofYaml? s with
      | some settings => .ok settings
      | none => .error (.invalid path)

end AppSettings

end AccessGate
