/-
# Commands

What an operator can ask on the command line, and how it is answered by an access
manager. `CheckArguments.question` reads the arguments of a check as a question;
arguments that describe none are refused before anything is asked.
-/
import AccessGate.Manager

namespace AccessGate

/-! ## Faults -/

/-- Why a command has no answer. -/
inductive CommandFault where
  | fault (fault : Fault)
  | partOutsideDags
  | viewNotNamed
  | customViewNotNamed
  | unknownName (name : UnknownName)
  deriving DecidableEq, Repr

/-- The wording of a command's fault. -/
def CommandFault.message : CommandFault → String
  | .fault f => f.message
  | .partOutsideDags => "--access-entity only applies to dags"
  | .viewNotNamed => "--id must name the access view"
  | .customViewNotNamed => "--id must name the custom view"
  | .unknownName n => n.message

/-! ## Checks -/

/-- The arguments of a check as given. -/
structure CheckArguments where
  resource : Resource
  method : String := Method.get.name
  id : Option String := none
  part : Option DagPart := none
  deriving DecidableEq, Repr

namespace CheckArguments

/-- The details that the arguments give; without an id and a part there are none. -/
def details : (k : RecordKind) → CheckArguments → Option (Details k)
  | .dag, a => if a.id = none ∧ a.part = none then none else some ⟨a.id, a.part⟩
  | _, a => a.id.map Details.ofId

/-- The question that the arguments ask. Records are asked about with a method in any
case, custom views with the word exactly as it is given, system views with none. -/
def question (a : CheckArguments) : Except CommandFault Question :=
  if a.part ≠ none ∧ a.resource ≠ .record .dag then .error .partOutsideDags
  else
    match a.resource, a.id with
    | .record k, _ =>
        match Method.parse a.method with
        | .ok m => .ok (.record k m (a.details k))
        | .error e => .error (.unknownName e)
    | .view, none => .error .viewNotNamed
    | .view, some name =>
        match SystemView.parse name with
        | .ok v => .ok (.view v)
        | .error e => .error (.unknownName e)
    | .customView, none => .error .customViewNotNamed
    | .customView, some name => .ok (.customView (.ofText a.method) name)

end CheckArguments

/-! ## Commands -/

/-- Whom a command is about. -/
inductive Who where
  | signedIn
  | other (subject : Subject)
  deriving DecidableEq, Repr

/-- A query of the command line. -/
inductive Command where
  | whoami
  | check (arguments : CheckArguments) (who : Who)
  | permittedDags (methods : List Method) (who : Who)
  | menu (items : List String) (who : Who)
  /-- A command that the manager has added. -/
  | added (name : String) (arguments : Arguments)
  deriving DecidableEq, Repr

/-- The answer to a command. -/
inductive Output where
  | text (s : String)
  | decision (allowed : Bool)
  | names (list : List String)
  deriving DecidableEq, Repr

/-- An answer as it is printed. -/
def Output.print : Output → String
  | .text s => s ++ "\n"
  | .decision allowed => if allowed then "allowed\n" else "denied\n"
  | .names list => String.join (list.map (· ++ "\n"))

/-- The subject a command is about. Only who is signed in has to be asked for. -/
def Who.resolve (m : Manager) : Who → Run (Option Subject)
  | .signedIn => m.subject
  | .other s => return some s

namespace Command

/-- The signed-in subject: its name, with its id in brackets if it has one. -/
def whoamiText (m : Manager) : Run (Except Fault String) := do
  if ← m.isLoggedIn then
    match ← m.subjectName with
    | .error f => return .error f
    | .ok name =>
        match ← m.subjectId with
        | .error f => return .error f
        | .ok none => return .ok name
        | .ok (some id) => return .ok (name ++ " (" ++ id ++ ")")
  else return .ok "anonymous"

/-- The decision on a check for a subject. -/
def decide (m : Manager) (a : CheckArguments) (s : Option Subject) :
    Run (Except CommandFault Bool) := do
  match a.question with
  | .error f => return .error f
  | .ok q => return .ok (← m.check ⟨q, s⟩)

/-- Answer a command. The menu consists of entries without children, each shown by its
own name. -/
def run (m : Manager) (dags : DagSource) : Command → Run (Except CommandFault Output)
  | .whoami => do
      match ← whoamiText m with
      | .ok s => return .ok (.text s)
      | .error f => return .error (.fault f)
  | .check a who => do
      let s ← who.resolve m
      match ← decide m a s with
      | .ok allowed => return .ok (.decision allowed)
      | .error f => return .error f
  | .permittedDags methods who => do
      let s ← who.resolve m
      match ← m.permittedDags dags methods s with
      | .ok ids => return .ok (.names ids.toList)
      | .error f => return .error (.fault f)
  | .menu items who => do
      let s ← who.resolve m
      let kept ← m.filterMenu (items.map fun n => .leaf n n) s
      return .ok (.names (kept.map MenuItem.name))
  | .added name arguments => do
      match ← m.runCommand name arguments with
      | .ok s => return .ok (.text s)
      | .error f => return .error (.fault f)

end Command

end AccessGate
