/-
# Deployments

A deployment is what changes while a program with gateways runs: its registries, and
what each gateway service has selected from them. A service selects when it is first
needed and never again.

`Activity` is the monad of operations on a deployment; `Deployment.perform` runs an
operation of the contract on an `Api`, selecting as it goes.
-/
import AccessGate.Manager.Gateway
import AccessGate.Registry

namespace AccessGate

/-! ## State -/

/-- The registries and selections of a running program. -/
structure Deployment where
  /-- The registries, by number. -/
  registries : List Registry := [Registry.empty]
  /-- How many services there are. -/
  services : Nat := 0
  /-- What services have selected, by service number. -/
  selections : List (Nat × Api) := []

/-- What acts on a deployment while time passes. -/
abbrev Activity :=
  StateT Deployment Run

namespace Deployment

/-- The registry of a number. -/
def registry (d : Deployment) (number : Nat) : Registry :=
  d.registries[number]?.getD .empty

/-- What a service has selected. -/
def selected? (d : Deployment) (s : Service) : Option Api :=
  d.selections.lookup s.number

/-- The name of an api, following at most `steps` selections: that of the manager it
stands for, or the vendor if nothing is selected. -/
def nameWithin (d : Deployment) : (steps : Nat) → Api → String
  | _, .direct m => m.name
  | 0, .client s => s.vendor
  | steps + 1, .client s =>
      match d.selected? s with
      | some api => nameWithin d steps api
      | none => s.vendor

/-- The name of an api. Asking for it selects nothing. -/
def nameOf (d : Deployment) (api : Api) : String :=
  d.nameWithin d.services api

/-! ## Registering -/

/-- Start over with an empty registry; its number. -/
def newRegistry : Activity Nat := do
  let d ← get
  set { d with registries := d.registries ++ [Registry.empty] }
  return d.registries.length

/-- Add an instance to a registry. -/
def register (number : Nat) (i : Instance) : Activity (Except SetupFault Unit) := do
  let d ← get
  match (d.registry number).register i with
  | .error fault => return .error fault
  | .ok registry =>
      Run.log [.instanceRegistered i.id i.vendor i.priority]
      set { d with registries := d.registries.set number registry }
      return .ok ()

/-! ## Selecting -/

/-- A new service over a registry. It selects nothing yet. -/
def newService (registry : Nat) (s : GatewaySettings) : Activity Service := do
  let d ← get
  set { d with services := d.services + 1 }
  return ⟨d.services, registry, s.vendor, s.timeout⟩

/-- What a service has selected, or selects now if its registry has something for
its vendor. -/
def select (s : Service) : Activity (Option Api) := do
  let d ← get
  match d.selected? s with
  | some api => return some api
  | none =>
      match (d.registry s.registry).select? s.vendor with
      | none => return none
      | some i =>
          Run.log [.instanceSelected s.vendor i.id i.priority (d.nameOf i.api)]
          set { d with selections := d.selections ++ [(s.number, i.api)] }
          return some i.api

/-- The manager that an api stands for, following at most `steps` selections.

Where the steps run out at a client, it answers as if there were no backend for its vendor,
although one may be selected. With as many steps as there are services this happens only if
selections go in a circle, as they do once a service has selected its own client, registered for
its own vendor. The program then passes the operation on without end and never answers, so what
is answered here stands for no answer of the program. -/
def managerWithin : (steps : Nat) → Api → Activity Manager
  | _, .direct m => return m
  | 0, .client s => return .unavailable s.vendor
  | steps + 1, .client s => do
      match ← select s with
      | none => return .unavailable s.vendor
      | some api => return (← managerWithin steps api).behind s.limit

/-- The manager that an api stands for. No service comes twice on the way to a
manager, so there are at most as many selections as services. -/
def manager (api : Api) : Activity Manager := do
  managerWithin (← get).services api

/-- Run an operation of the contract on an api. -/
def perform {α : Type} (api : Api) (operation : Manager → Run α) : Activity α := do
  operation (← manager api)

end Deployment

end AccessGate
