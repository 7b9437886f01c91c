/-
# Managers behind a gateway

A gateway passes every operation on to the manager it has selected.

* `Manager.behind` is that manager seen through a gateway: decisions that take
  longer than the limit are denied, everything else is unchanged.
* `Manager.unavailable` is what a gateway answers that has no manager to select:
  decisions are denied, and what cannot be denied is a fault.
-/
import AccessGate.Manager

namespace AccessGate

/-- A decision, or the denial if there is none to be had. The log says why. -/
def denyUnlessDecided {α : Type} (operation : Operation) (denial : α) :
    Except GatewayFault α → Run α
  | .ok decision => return decision
  | .error fault => do
      Run.log [.decisionUnavailable operation fault]
      return denial

/-- A fault of the gateway, as its caller sees it. -/
def callFailed {α : Type} (operation : Operation) (fault : GatewayFault) :
    Run (Except Fault α) := do
  Run.log [.callFailed operation]
  return .error fault.fault

namespace Manager

/-- A manager through a gateway that denies decisions beyond the limit. A listing
that fails within the limit fails here too; beyond it nothing is listed. -/
def behind (limit : Option Nat) (m : Manager) : Manager where
  name := m.name
  start := m.start
  commands := m.commands
  runCommand := m.runCommand
  subject := m.subject
  subjectName := m.subjectName
  displayName := m.displayName
  subjectId := m.subjectId
  check i := do
    denyUnlessDecided (.check i.question.resource) false (← (m.check i).within limit)
  batch {k} rs := do
    denyUnlessDecided (.batch k) false (← (m.batch rs).within limit)
  filterDags ids methods subject := do
    denyUnlessDecided .filterDags .empty (← (m.filterDags ids methods subject).within limit)
  permittedDags source methods subject := do
    denyUnlessDecided .permittedDags (.ok .empty)
      (← (m.permittedDags source methods subject).within limit)
  filterMenu items subject := do
    denyUnlessDecided .filterMenu [] (← (m.filterMenu items subject).within limit)

/-- A gateway without a manager for its vendor. -/
def unavailable (vendor : String) : Manager where
  name := vendor
  start := callFailed .start (.noBackend vendor)
  commands := []
  runCommand _ _ := callFailed .runCommand (.noBackend vendor)
  subject := do
    Run.log [.callFailed .subject]
    return none
  subjectName := callFailed .subjectName (.noBackend vendor)
  displayName := callFailed .displayName (.noBackend vendor)
  subjectId := callFailed .subjectId (.noBackend vendor)
  check i := denyUnlessDecided (.check i.question.resource) false (.error (.noBackend vendor))
  batch {k} _ := denyUnlessDecided (.batch k) false (.error (.noBackend vendor))
  filterDags _ _ _ := denyUnlessDecided .filterDags .empty (.error (.noBackend vendor))
  permittedDags _ _ _ := callFailed .permittedDags (.noBackend vendor)
  filterMenu _ _ := denyUnlessDecided .filterMenu [] (.error (.noBackend vendor))

end Manager

end AccessGate
