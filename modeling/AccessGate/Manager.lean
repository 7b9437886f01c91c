/-
# Access managers

`Manager` is the contract of an access manager: identity, single checks, and the
operations on many things. `Backend` is the part that has to be provided;
`Backend.manager` adds the rest in the way everything else is derived from it.

Every decision names the subject it is made for; nobody (`none`) is denied by a
decision, never by a fault.
-/
import AccessGate.Derived
import AccessGate.Run

namespace AccessGate

/-! ## The contract -/

/-- A command that a manager adds to the command line, with the options it takes.
Each option takes one value and has to be given. -/
structure AddedCommand where
  name : String
  options : List String
  deriving DecidableEq, Repr

/-- The values of options, by option name. -/
abbrev Arguments :=
  List (String × String)

/-- A listing of every DAG id there is. -/
abbrev DagSource :=
  Run (Except Fault DagIds)

/-- The operations of an access manager. -/
structure Manager where
  /-- The name used in logs. -/
  name : String
  /-- Run once while the program is starting. -/
  start : Run (Except Fault Unit)
  commands : List AddedCommand
  /-- Run one of the commands; the answer is a text for the operator. -/
  runCommand : String → Arguments → Run (Except Fault String)
  /-- Who is signed in. -/
  subject : Run (Option Subject)
  subjectName : Run (Except Fault String)
  displayName : Run (Except Fault String)
  subjectId : Run (Except Fault (Option String))
  /-- One decision. -/
  check : Inquiry → Run Bool
  /-- Whether every request is allowed. -/
  batch : {k : RecordKind} → List (Request k) → Run Bool
  /-- The ids that a subject may act on with one of the methods. -/
  filterDags : DagIds → List Method → Option Subject → Run DagIds
  permittedDags : DagSource → List Method → Option Subject → Run (Except Fault DagIds)
  /-- The menu entries that a subject may open. -/
  filterMenu : List MenuItem → Option Subject → Run (List MenuItem)

namespace Manager

/-- Whether anyone is signed in. -/
def isLoggedIn (m : Manager) : Run Bool :=
  Option.isSome <$> m.subject

/-- How a manager is shown to programmers: its parts are not. -/
def debugText : String :=
  "AuthManager \x7b .. \x7d"

end Manager

/-! ## Backends -/

/-- What a backend has to provide. -/
structure Backend where
  name : String
  start : Run (Except Fault Unit) := pure (.ok ())
  subject : Run (Option Subject)
  check : Inquiry → Run Bool

namespace Backend

/-- Something about the subject that is signed in; if there is none, the operation
fails and says so in the log. -/
def ofSubject {α : Type} (b : Backend) (operation : Operation) (f : Subject → α) :
    Run (Except Fault α) := do
  match ← b.subject with
  | some s => return .ok (f s)
  | none =>
      Run.log [.notSignedIn operation]
      return .error .unauthenticated

/-- The whole contract, derived from what the backend provides. It adds no commands. -/
def manager (b : Backend) : Manager where
  name := b.name
  start := b.start
  commands := []
  runCommand name _ := return .error (.unknownCommand name)
  subject := b.subject
  subjectName := b.ofSubject .subjectName Subject.name
  displayName := b.ofSubject .subjectName Subject.name
  subjectId := b.ofSubject .subjectId Subject.knownId
  check := b.check
  batch := Derived.batch b.check
  filterDags := Derived.filterDags b.check
  permittedDags := Derived.permittedDags (Derived.filterDags b.check)
  filterMenu items subject := Derived.filterMenu b.check subject items

end Backend

end AccessGate
