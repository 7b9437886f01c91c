/-
# The static backend

A table of grants as an access manager. Its decisions take no time, so a batch is
one pass over the table, and it adds a command that lists the grants of a subject.
-/
import AccessGate.GrantTable
import AccessGate.Manager

namespace AccessGate.GrantTable

/-- The command that lists grants. -/
def listGrants : AddedCommand :=
  ⟨"list-grants", ["subject"]⟩

/-- A table decides at once and logs what it denies. -/
def backend (t : GrantTable) : Backend where
  name := "static"
  start := do
    Run.log [.staticReady t.mode]
    return .ok ()
  subject := return t.current
  check i := do
    Run.log (t.denials i)
    return t.permits i

/-- A batch is allowed unless some request is denied; the first one is logged. -/
def batch (t : GrantTable) {k : RecordKind} (rs : List (Request k)) : Run Bool :=
  match (rs.map Request.inquiry).find? fun i => !t.permits i with
  | some i => do
      Run.log (t.denials i)
      return false
  | none => return true

/-- The command of the static backend; nothing else is known here. -/
def runCommand (t : GrantTable) (name : String) (arguments : Arguments) : Except Fault String :=
  if name = listGrants.name then
    match arguments.lookup "subject" with
    | some subject => .ok (t.listing subject)
    | none => .error (.internal "missing --subject")
  else .error (.unknownCommand name)

/-- The table as an access manager. -/
def manager (t : GrantTable) : Manager :=
  { t.backend.manager with
    commands := [listGrants]
    runCommand := fun name arguments => return t.runCommand name arguments
    batch := t.batch }

/-- The same manager with other means of finding out who is signed in. -/
def resolvedBy (t : GrantTable) (resolver : Run (Option Subject)) : Manager :=
  { ({ t.backend with subject := resolver } : Backend).manager with
    commands := [listGrants]
    runCommand := fun name arguments => return t.runCommand name arguments
    batch := t.batch }

end AccessGate.GrantTable
