/-
# Command-line grammars

A grammar says which options a command takes, what their values may be, and whether
words that are not options are operands or subcommands. Every command also answers
`-h` and `--help`.
-/
import AccessGate.Command

namespace AccessGate.CommandLine

/-- Why a command line is refused, or why it is answered by itself. -/
inductive UsageFault where
  /-- An option has no value. -/
  | missingValue
  /-- An option has a value that it does not accept. -/
  | refusedValue
  /-- A flag is given a value. -/
  | unexpectedValue
  | unknownArgument
  | unknownCommand
  /-- An option that is given once at most is given again. -/
  | repeatedOption
  | missingArgument
  | missingCommand
  /-- Nothing is given at all. -/
  | nothingGiven
  | help
  | version
  deriving DecidableEq, Repr

/-! ## Options -/

/-- An option that takes a value. -/
structure OptionSpec where
  /-- The name behind two dashes. -/
  name : String
  /-- The letter behind one dash. -/
  letter : Option Char := none
  /-- What is wrong with a value. -/
  refusal : String → Option UsageFault := fun _ => none
  repeatable : Bool := false
  required : Bool := false
  /-- The option without which this one makes no sense. -/
  needs : Option String := none

/-- What a command line may consist of. -/
structure Grammar where
  options : List OptionSpec
  commands : List String := []
  /-- Whether other words are operands, of which there has to be one. -/
  takesOperands : Bool := false
  /-- Whether the command answers `-V` and `--version`. -/
  hasVersion : Bool := false

/-- A value that a reader accepts. -/
def readable {α : Type} (read : String → Except UnknownName α) (s : String) :
    Option UsageFault :=
  match read s with
  | .ok _ => none
  | .error _ => some .refusedValue

/-- A path is not empty. -/
def pathRefusal (s : String) : Option UsageFault :=
  if s = "" then some .missingValue else none

/-- The configuration file, which can be named before and after the subcommand. -/
def configOption : OptionSpec where
  name := "config"
  letter := some 'c'
  refusal := pathRefusal

/-- The subject to decide for. -/
def asOption : OptionSpec where
  name := "as"

/-- The id of the subject to decide for. -/
def asIdOption : OptionSpec where
  name := "as-id"
  needs := some asOption.name

/-! ## The program's grammar -/

/-- The names of the built-in commands. -/
def builtinCommands : List String :=
  ["whoami", "check", "permitted-dags", "menu"]

/-- The name of the command that shows help. -/
def helpCommand : String :=
  "help"

/-- The grammar up to the subcommand. -/
def topGrammar (added : List AddedCommand) : Grammar where
  options := [configOption]
  commands := builtinCommands ++ added.map AddedCommand.name ++ [helpCommand]
  hasVersion := true

/-- The grammar behind a subcommand. -/
def commandGrammar (added : List AddedCommand) (name : String) : Grammar :=
  match name with
  | "whoami" => { options := [configOption] }
  | "check" =>
      { options := [
          { name := "resource", refusal := readable Resource.parse, required := true },
          { name := "method" },
          { name := "id" },
          { name := "access-entity", refusal := readable DagPart.parse },
          asOption, asIdOption, configOption] }
  | "permitted-dags" =>
      { options := [
          { name := "method", refusal := readable Method.parse, repeatable := true },
          asOption, asIdOption, configOption] }
  | "menu" => { options := [asOption, asIdOption, configOption], takesOperands := true }
  | _ =>
      match added.find? fun c => c.name = name with
      | some c =>
          { options := c.options.map (fun o => { name := o, required := true }) ++ [configOption] }
      | none => { options := [configOption] }

end AccessGate.CommandLine
