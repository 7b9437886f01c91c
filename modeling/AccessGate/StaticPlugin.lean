/-
# The static plugin

The static plugin builds a table of grants from its settings, once, and registers it
as a backend.
-/
import AccessGate.Deployment
import AccessGate.Manager.Static

namespace AccessGate

/-- The static plugin, with its table once it is started. -/
structure StaticPlugin where
  table : Option GrantTable := none
  deriving DecidableEq, Repr

namespace StaticPlugin

/-- The id under which the plugin registers for a vendor. -/
def instanceId (vendor : String) : String :=
  "static_auth_plugin." ++ vendor

/-- Build the table, keep it, and register it. A plugin keeps its first table, also
if registering it fails. -/
def start (registry : Nat) (s : StaticSettings) :
    StateT StaticPlugin Activity (Except StartupFault GrantTable) := do
  Run.log [.staticLoaded s.mode s.subjects.length]
  match GrantTable.ofSettings s with
  | .error fault => return .error (.fault fault.fault)
  | .ok table =>
      match (← get).table with
      | some _ => return .error .alreadyStarted
      | none =>
          set (StaticPlugin.mk (some table))
          let id := instanceId s.vendor
          match ← Deployment.register registry ⟨id, s.vendor, s.priority, .direct table.manager⟩ with
          | .error fault => return .error (.fault fault.fault)
          | .ok () =>
              Run.log [.staticRegistered id]
              return .ok table

/-- The listing of the DAG ids in the settings. -/
def dagSource (s : StaticSettings) : DagSource :=
  return .ok (.ofList s.dagIds)

end StaticPlugin

end AccessGate
