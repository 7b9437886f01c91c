/-
# Scanning arguments

`scan` goes through the arguments of one command from left to right. The value of an
option is judged when the next argument that is not its value comes up, or at the end;
a value attached with `=` is judged at once. Behind `--` nothing is an option or a
subcommand.

What was accepted before a fault is kept, because the first look at a command line
goes by it. That look is lenient: an option may go without its value.
-/
import AccessGate.CommandLine.Grammar

namespace AccessGate.CommandLine

/-! ## Arguments -/

/-- The shape of an argument. -/
inductive Argument where
  /-- Two dashes alone. -/
  | endOfOptions
  | long (name : String) (value : Option String)
  /-- One dash with letters. -/
  | letters (first : Char) (rest : List Char)
  | word (s : String)
  deriving DecidableEq, Repr

/-- The shape of an argument. One dash alone is a word. -/
def Argument.ofText (s : String) : Argument :=
  match s.toList with
  | ['-', '-'] => .endOfOptions
  | '-' :: '-' :: body =>
      match body.span (· ≠ '=') with
      | (name, []) => .long (String.ofList name) none
      | (name, _ :: value) => .long (String.ofList name) (some (String.ofList value))
  | '-' :: c :: rest => .letters c rest
  | _ => .word s

/-! ## What has been seen -/

/-- What is known of an option that was given: its value, or that it has none, because
it was refused or left off. -/
abbrev Given :=
  Option String

/-- The state of a scan. -/
structure State where
  given : List (String × Given) := []
  operands : List String := []
  /-- The option given last, with its value if that has come, to be judged yet. -/
  pending : Option (OptionSpec × Option String) := none
  /-- Whether the next word is the pending option's value. -/
  awaits : Bool := false
  /-- Whether `--` has been seen. -/
  trailing : Bool := false
  /-- Whether an option may go without its value. -/
  lenient : Bool := false

namespace State

/-- Judge the value of an option. A second occurrence of an option that takes one value
removes the first. -/
def judge (s : State) (o : OptionSpec) (value : Option String) : State × Option UsageFault :=
  if value = none && !s.lenient then (s, some .missingValue)
  else if !o.repeatable && (s.given.lookup o.name).isSome then
    ({ s with given := s.given.filter (·.1 ≠ o.name) }, some .repeatedOption)
  else
    match value.bind o.refusal with
    | some fault => ({ s with given := s.given ++ [(o.name, none)] }, some fault)
    | none => ({ s with given := s.given ++ [(o.name, value)] }, none)

/-- Judge the pending option, if there is one. -/
def settle (s : State) : State × Option UsageFault :=
  match s.pending with
  | none => (s, none)
  | some (o, value) => { s with pending := none, awaits := false }.judge o value

/-- The value of an option; of several, the last. -/
def value? (s : State) (name : String) : Option String :=
  (s.given.reverse.lookup name).join

/-- The values of an option. -/
def values (s : State) (name : String) : List String :=
  (s.given.filter (·.1 = name)).filterMap (·.2)

/-- An option with its value, or waiting for it. What was pending is judged first. -/
def takeOption (s : State) (o : OptionSpec) (value : Option String) :
    State × Option UsageFault :=
  match s.settle with
  | (s, some fault) => (s, some fault)
  | (s, none) =>
      match value with
      | some v => s.judge o (some v)
      | none => ({ s with pending := some (o, none), awaits := true }, none)

/-- A flag that ends the scan. What was pending is judged first. -/
def takeFlag (s : State) (flag : UsageFault) : State × Option UsageFault :=
  match s.settle with
  | (s, some fault) => (s, some fault)
  | (s, none) => (s, some flag)

/-- A fault that wins over the pending option's. -/
def fail (s : State) (fault : UsageFault) : State × Option UsageFault :=
  (s.settle.1, some fault)

/-- An option by its long name. -/
def takeLong (g : Grammar) (s : State) (name : String) (value : Option String) :
    State × Option UsageFault :=
  match g.options.find? (·.name = name) with
  | some o => s.takeOption o value
  | none =>
      let flag := if name = "help" then some UsageFault.help
        else if g.hasVersion && name = "version" then some UsageFault.version else none
      match flag, value with
      | none, _ => s.fail .unknownArgument
      | some _, some _ => s.fail .unexpectedValue
      | some flag, none => s.takeFlag flag

/-- An option by its letter. The rest of the argument is its value, with or without an
equals sign in front. -/
def takeLetter (g : Grammar) (s : State) (first : Char) (rest : List Char) :
    State × Option UsageFault :=
  match g.options.find? (·.letter = some first) with
  | some o =>
      s.takeOption o <| match rest with
        | [] => none
        | '=' :: value => some (String.ofList value)
        | value => some (String.ofList value)
  | none =>
      if first = 'h' then s.takeFlag .help
      else if g.hasVersion && first = 'V' then s.takeFlag .version
      else s.fail .unknownArgument

end State

/-! ## Scanning -/

/-- Where a scan stops. -/
inductive Stop where
  | atEnd
  | fault (fault : UsageFault)
  | command (name : String) (rest : List String)
  /-- A word that is neither operand nor subcommand. -/
  | stray (word : String)
  deriving DecidableEq, Repr

/-- Go on unless there is a fault. -/
def proceed (next : State → State × Stop) : State × Option UsageFault → State × Stop
  | (s, some fault) => (s, .fault fault)
  | (s, none) => next s

/-- Go through the arguments of one command. -/
def scan (g : Grammar) (s : State) : List String → State × Stop
  | [] => (s, .atEnd)
  | a :: rest =>
      if !s.trailing && !s.awaits && g.commands.contains a then (s, .command a rest)
      else
        match s.trailing, Argument.ofText a with
        | false, .endOfOptions => scan g { s with trailing := true } rest
        | false, .long name value => proceed (scan g · rest) (s.takeLong g name value)
        | false, .letters first more => proceed (scan g · rest) (s.takeLetter g first more)
        | trailing, _ =>
            if !trailing && s.awaits then
              scan g { s with pending := s.pending.map (·.1, some a), awaits := false } rest
            else if g.takesOperands then
              proceed (fun s => scan g { s with operands := s.operands ++ [a] } rest) s.settle
            else (s, .stray a)

/-- A grammar's demands that are not met. -/
def unmet (g : Grammar) (s : State) : Bool :=
  let isGiven := fun name => (s.given.lookup name).isSome
  g.options.any (fun o =>
    (o.required && !isGiven o.name) ||
      match o.needs with
      | some other => isGiven o.name && !isGiven other
      | none => false) ||
    (g.takesOperands && s.operands.isEmpty)

end AccessGate.CommandLine
