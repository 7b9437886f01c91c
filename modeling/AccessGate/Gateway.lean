/-
# Starting gateways

A gateway is started once. Starting selects the backend for the vendor, runs the
backend's own start and, if both succeed and no other start came first, sets the
gateway.

The backend's start may wait, and another start of the same gateway may go on
meanwhile. A `Launch` is a start that is under way: `Launch.resume` takes it from one
wait to the next. `Gateway.start` takes one launch to its end, `Gateway.race` two at
once.
-/
import AccessGate.Deployment

namespace AccessGate

/-- A gateway, with its service once it is started. -/
structure Gateway where
  service : Option Service := none
  deriving DecidableEq, Repr

/-- What acts on a gateway. -/
abbrev Starting :=
  StateT Gateway Activity

namespace Gateway

/-- The client of a gateway that is started. -/
def client? (g : Gateway) : Option Api :=
  g.service.map Api.client

end Gateway

/-! ## Launches -/

/-- A start of a gateway that is under way. -/
inductive Launch where
  /-- The backend's start waits; `rest` is what is left of it afterwards. -/
  | waiting (service : Service) (duration : Nat) (rest : Run (Except Fault Unit))
  | finished (result : Except StartupFault Service)

namespace Launch

/-- The end of a launch: the backend has started or failed, and the gateway is set
unless another start was faster. -/
def finish (service : Service) : Except Fault Unit → Starting (Except StartupFault Service)
  | .error fault => return .error (.fault fault)
  | .ok () => do
      match (← get).service with
      | some _ => return .error .alreadyStarted
      | none =>
          set (Gateway.mk (some service))
          let d ← getThe Deployment
          Run.log [.gatewayStarted (d.nameOf (.client service))]
          return .ok service

/-- Go on with a backend's start up to its next wait or its end. -/
def proceed (service : Service) (outcome : Except Fault Unit) : List Step → Starting Launch
  | [] => return .finished (← finish service outcome)
  | .wait duration :: rest => return .waiting service duration ⟨rest, outcome⟩
  | step :: rest => do
      (Run.mk [step] () : Run Unit)
      proceed service outcome rest

/-- Begin a launch: it needs a gateway that is not started yet, and a backend for the
vendor, whose start it runs up to the first wait. -/
def begin (registry : Nat) (s : GatewaySettings) : Starting Launch := do
  Run.log [.gatewayStarting s.vendor]
  match (← get).service with
  | some _ => return .finished (.error .alreadyStarted)
  | none =>
      let service ← Deployment.newService registry s
      match ← Deployment.select service with
      | none => return .finished (.error (.fault (.noPluginAvailable s.vendor)))
      | some api =>
          let start := (← Deployment.manager api).start
          proceed service start.value start.steps

/-- Take a launch past the wait it stands at, to the next wait or the end. -/
def resume : Launch → Starting Launch
  | .waiting service _ rest => proceed service rest.value rest.steps
  | .finished result => return .finished result

/-- Take a launch through all its waits to the end, with nothing in between. -/
def complete : Launch → Starting (Except StartupFault Service)
  | .waiting service duration rest => do
      Run.wait duration
      finish service (← (rest : Run _))
  | .finished result => return result

/-- How often a launch waits from here on, at most. -/
def waits : Launch → Nat
  | .waiting _ _ rest => rest.steps.length + 1
  | .finished _ => 0

end Launch

/-! ## One start, or two at once -/

namespace Gateway

/-- Start a gateway with a backend from a registry. -/
def start (registry : Nat) (s : GatewaySettings) : Starting (Except StartupFault Service) := do
  (← Launch.begin registry s).complete

/-- Take two launches to their ends. While both wait, the one whose wait is over
first is resumed; if both are over at once, the second launch is. The number bounds
how often they wait. -/
def raceWithin : Nat → Launch → Launch →
    Starting (Except StartupFault Service × Except StartupFault Service)
  | waits + 1, .waiting s d rest, .waiting s' d' rest' => do
      if d < d' then
        Run.wait d
        raceWithin waits (← (Launch.waiting s 0 rest).resume) (.waiting s' (d' - d) rest')
      else
        Run.wait d'
        raceWithin waits (.waiting s (d - d') rest) (← (Launch.waiting s' 0 rest').resume)
  | _, a, b => do
      let first ← a.complete
      let second ← b.complete
      return (first, second)

/-- Start a gateway twice at once, the first start a moment before the second. -/
def race (registry : Nat) (first second : GatewaySettings) :
    Starting (Except StartupFault Service × Except StartupFault Service) := do
  let a ← Launch.begin registry first
  let b ← Launch.begin registry second
  raceWithin (a.waits + b.waits) a b

end Gateway

/-! ## The process-wide manager -/

/-- The manager that a whole process shares, once it is set. -/
structure ProcessWide where
  client : Option Service := none
  deriving DecidableEq, Repr

/-- What acts on the process-wide manager. -/
abbrev Process :=
  StateT ProcessWide Activity

namespace ProcessWide

/-- The process-wide manager. -/
def api? (p : ProcessWide) : Except Fault Api :=
  match p.client with
  | some service => .ok (.client service)
  | none => .error .notInitialized

/-- Set the process-wide manager by starting a gateway of its own. Starts take turns,
so the next one begins when this one has ended. -/
def start (registry : Nat) (s : GatewaySettings) : Process (Except StartupFault Service) := do
  match (← get).client with
  | some _ => return .error .managerAlreadySet
  | none =>
      let (result, _) ← (Gateway.start registry s).run {}
      match result with
      | .error fault => return .error fault
      | .ok service =>
          set (ProcessWide.mk (some service))
          return .ok service

/-- Two starts at once: the first one gets its turn first. -/
def race (registry : Nat) (first second : GatewaySettings) :
    Process (Except StartupFault Service × Except StartupFault Service) := do
  let a ← start registry first
  let b ← start registry second
  return (a, b)

end ProcessWide

end AccessGate
