/-
# Probes

A probe is a backend to measure others with: its answers and the time it takes are
settled beforehand, and everything it is asked is recorded under its number.
-/
import AccessGate.Grant
import AccessGate.Manager

namespace AccessGate

/-- A backend with settled answers. -/
structure Probe where
  number : Nat
  name : String
  /-- Who is signed in. -/
  subject : Option Subject := none
  /-- Whether every subject is allowed everything. -/
  allowsAll : Bool := false
  /-- What every subject is allowed. -/
  grants : List Grant := []
  /-- How long a decision takes, in milliseconds. -/
  delay : Nat := 0
  /-- How long starting takes, in milliseconds. -/
  startDelay : Nat := 0
  /-- Why starting fails, if it does. -/
  startFault : Option String := none

namespace Probe

/-- The settled answer to an inquiry. Nobody is allowed anything. -/
def permits (p : Probe) (i : Inquiry) : Bool :=
  i.subject.isSome && (p.allowsAll || p.grants.any (·.covers i.question.check))

/-- A probe records that it is asked, waits and answers. -/
def backend (p : Probe) : Backend where
  name := p.name
  start := do
    Run.call p.number .started
    Run.wait p.startDelay
    return match p.startFault with
      | some reason => .error (.internal reason)
      | none => .ok ()
  subject := do
    Run.call p.number .askedSubject
    return p.subject
  check i := do
    Run.call p.number (.asked i)
    Run.wait p.delay
    return p.permits i

/-- The probe as an access manager. -/
def manager (p : Probe) : Manager :=
  p.backend.manager

end Probe

end AccessGate
