/-
# The program

One run of the program: find the configuration, start the static plugin and the
process-wide manager, and answer the command. Files and arguments go in, what is
printed and the exit code come out.
-/
import AccessGate.CommandLine.Parse
import AccessGate.Gateway
import AccessGate.Settings.Load
import AccessGate.StaticPlugin

namespace AccessGate

/-- How a run of the program ends. -/
inductive HostFault where
  | load (fault : LoadFault)
  | startup (fault : StartupFault)
  | usage (fault : CommandLine.UsageFault)
  | command (fault : CommandFault)
  deriving DecidableEq, Repr

/-- What a run of the program leaves behind. -/
structure Outcome where
  exitCode : Nat
  printed : String := ""
  /-- The message of an error. -/
  message : Option String := none
  deriving DecidableEq, Repr

namespace Host

/-- The name and the version of the program. -/
def versionText : String :=
  "auth-manager 0.1.0\n"

/-- Start everything that the settings describe; the service to ask. -/
def start (s : AppSettings) : Activity (Except StartupFault Service) := do
  let (plugin, _) ← (StaticPlugin.start 0 s.static).run {}
  match plugin with
  | .error fault => return .error fault
  | .ok _ =>
      let (service, _) ← (ProcessWide.start 0 s.gateway).run {}
      return service

/-- Answer the command line with the settings in force. -/
def answer (s : AppSettings) (args : List String) : Activity (Except HostFault String) := do
  match ← start s with
  | .error fault => return .error (.startup fault)
  | .ok service =>
      let manager ← Deployment.manager (.client service)
      match CommandLine.parse manager.commands args with
      | .error fault => return .error (.usage fault)
      | .ok line =>
          match ← line.command.run manager (StaticPlugin.dagSource s.static) with
          | .error fault => return .error (.command fault)
          | .ok output => return .ok output.print

/-- The outcome of a fault. An error exits with 1 and a message, a wrong command line
with 2; help and version are no faults. -/
def outcome : Except HostFault String → Outcome
  | .ok printed => { exitCode := 0, printed }
  | .error (.load fault) => { exitCode := 1, message := some fault.message }
  | .error (.startup fault) => { exitCode := 1, message := some fault.message }
  | .error (.command fault) => { exitCode := 1, message := some fault.message }
  | .error (.usage .help) => { exitCode := 0 }
  | .error (.usage .version) => { exitCode := 0, printed := versionText }
  | .error (.usage _) => { exitCode := 2 }

/-- The configuration file of a command line, and whether it has to be there. -/
def configFile (args : List String) : String × Bool :=
  match CommandLine.configPath? args with
  | some path => (path, true)
  | none => (CommandLine.defaultConfigPath, false)

/-- Run the program on its arguments, given what paths lead to. -/
def run (lookup : String → FileState) (args : List String) : Outcome :=
  let (path, required) := configFile args
  match AppSettings.load path required (lookup path) with
  | .error fault => outcome (.error (.load fault))
  | .ok settings => outcome ((answer settings args).run {}).value.1

end Host

end AccessGate
