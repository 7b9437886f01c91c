/-
# Command lines

`CommandLine.parse` reads the arguments of the program, with the commands that the
selected backend adds. `CommandLine.configPath?` is the look at them before any
backend is selected, which finds the configuration file: it overlooks faults, and a
command it does not know hides what follows.
-/
import AccessGate.CommandLine.Scan

namespace AccessGate

/-- A command with the configuration file that was named. -/
structure CommandLine where
  config : Option String
  command : Command
  deriving DecidableEq, Repr

namespace CommandLine

/-- The configuration file when none is named. -/
def defaultConfigPath : String :=
  "config/auth-manager.yaml"

/-- The configuration file of a command line. -/
def configOrDefault (line : CommandLine) : String :=
  line.config.getD defaultConfigPath

/-- What a level of the command line says about the configuration file. The level
behind the subcommand wins. -/
def innermostConfig (outer inner : State) : Given :=
  match inner.given.lookup configOption.name with
  | some g => g
  | none => (outer.given.lookup configOption.name).join

/-! ## The first look -/

/-- What help for some commands leads to: help, if they name a command. -/
def helpFor (commands : List String) : List String → UsageFault
  | [] => .help
  | [name] => if commands.contains name then .help else .unknownCommand
  | _ :: _ :: _ => .unknownCommand

/-- What one level of a command line comes to when its faults are overlooked: the state
that it is left in and where the scan stops. A request for help or the version is no
fault and leaves nothing. -/
def overlook (g : Grammar) (args : List String) : Option (State × Stop) :=
  match scan g { lenient := true } args with
  | (_, .fault .help) | (_, .fault .version) => none
  | left => some left

/-- The configuration file that a command line names, as far as that can be told
without the commands of a backend. Help and version need none. -/
def configPath? (args : List String) : Option String := do
  let g := topGrammar []
  match ← overlook g args with
  | (s, .fault _) => innermostConfig s {}
  | (s, .atEnd) | (s, .stray _) => innermostConfig s.settle.1 {}
  | (s, .command name rest) =>
      if name = helpCommand then
        if helpFor g.commands rest = .help then none else innermostConfig s {}
      else
        match ← overlook (commandGrammar [] name) rest with
        | (inner, .fault _) => innermostConfig s.settle.1 inner
        | (inner, _) => innermostConfig s.settle.1 inner.settle.1

/-! ## The whole command line -/

/-- A scan that must not stop before the end, with everything judged. -/
def complete (g : Grammar) (args : List String) : Except UsageFault State :=
  match scan g {} args with
  | (_, .fault fault) => .error fault
  | (_, .stray _) | (_, .command _ _) => .error .unknownArgument
  | (s, .atEnd) =>
      match s.settle with
      | (_, some fault) => .error fault
      | (s, none) => if unmet g s then .error .missingArgument else .ok s

/-- Whom the options name. -/
def whoOf (s : State) : Who :=
  match s.value? asOption.name with
  | some name => .other ⟨s.value? asIdOption.name, name⟩
  | none => .signedIn

/-- A value that is read again after it was accepted. -/
def reread {α : Type} (read : String → Except UnknownName α) (v : String) :
    Except UsageFault α :=
  match read v with
  | .ok a => .ok a
  | .error _ => .error .refusedValue

/-- The command that the options and operands behind its name make up. -/
def commandOf (added : List AddedCommand) (name : String) (s : State) :
    Except UsageFault Command :=
  match name with
  | "whoami" => .ok .whoami
  | "check" => do
      let resource ← match s.value? "resource" with
        | some v => reread Resource.parse v
        | none => .error .missingArgument
      let part ← (s.value? "access-entity").mapM (reread DagPart.parse)
      let method := (s.value? "method").getD Method.get.name
      return .check { resource, method, id := s.value? "id", part } (whoOf s)
  | "permitted-dags" => do
      let methods ← (s.values "method").mapM (reread Method.parse)
      return .permittedDags methods (whoOf s)
  | "menu" => .ok (.menu s.operands (whoOf s))
  | _ =>
      let options := match added.find? fun c => c.name = name with
        | some c => c.options
        | none => []
      .ok (.added name (options.filterMap fun o => (s.value? o).map fun v => (o, v)))

/-- Read a command line. The faults behind a subcommand come before those of an option
in front of it that is still to be judged. -/
def parse (added : List AddedCommand) (args : List String) : Except UsageFault CommandLine := do
  let g := topGrammar added
  match scan g {} args with
  | (_, .fault fault) => .error fault
  | (s, .stray word) =>
      if s.trailing && g.commands.contains word then .error .unknownArgument
      else .error .unknownCommand
  | (s, .atEnd) =>
      match s.settle with
      | (_, some fault) => .error fault
      | (s, none) => if s.given.isEmpty then .error .nothingGiven else .error .missingCommand
  | (s, .command name rest) =>
      if name = helpCommand then .error (helpFor g.commands rest)
      else
        let inner ← complete (commandGrammar added name) rest
        match s.settle with
        | (_, some fault) => .error fault
        | (s, none) =>
            let command ← commandOf added name inner
            return { config := innermostConfig s inner, command }

end CommandLine

end AccessGate
