/-
# Faults

Denial is an answer, never a fault. Faults come from identity look-ups, set-up and
collaborators:

* `Fault` is what the operations of an access manager report;
* `SetupFault` says what is wrong with a configuration, and becomes a `Fault`;
* `GatewayFault` is why a gateway could not get an answer from its backend;
* `StartupFault` is why a start-up step failed.

Each cause has its wording in one function.
-/
import AccessGate.Resource

namespace AccessGate

/-! ## Faults of an access manager -/

/-- What an operation of an access manager can report. -/
inductive Fault where
  /-- The operation needs an identity and nobody is signed in. -/
  | unauthenticated
  /-- A backend was set up wrongly. -/
  | invalidConfiguration (reason : String)
  /-- No backend is registered for the vendor. -/
  | noPluginAvailable (vendor : String)
  /-- The process-wide manager is not set yet. -/
  | notInitialized
  /-- The backend does not provide the command. -/
  | unknownCommand (name : String)
  | internal (reason : String)
  deriving DecidableEq, Repr

/-- The wording of a fault. -/
def Fault.message : Fault → String
  | .unauthenticated => "the subject must be signed in"
  | .invalidConfiguration reason => "invalid auth manager configuration: " ++ reason
  | .noPluginAvailable vendor => "no auth manager plugin available for vendor '" ++ vendor ++ "'"
  | .notInitialized => "auth manager is not initialized"
  | .unknownCommand name => "unknown auth manager command '" ++ name ++ "'"
  | .internal reason => "internal error: " ++ reason

/-! ## Set-up -/

/-- What can be wrong with the configuration of a backend. -/
inductive SetupFault where
  | noMethods (resource : Resource) (subject : String)
  | partOutsideDags (resource : Resource) (subject : String)
  | customMethod (resource : Resource) (subject : String) (method : String)
  | repeatedSubject (name : String)
  | unknownSignedIn (name : String)
  | repeatedInstance (id : String)
  deriving DecidableEq, Repr

namespace SetupFault

/-- How a message speaks of a configured grant. -/
def grantOf (resource : Resource) (subject : String) : String :=
  "grant on '" ++ resource.name ++ "' for subject '" ++ subject ++ "'"

/-- The wording of a set-up fault. -/
def message : SetupFault → String
  | .noMethods r s => grantOf r s ++ " lists no methods"
  | .partOutsideDags r s => grantOf r s ++ " sets access_entity, which only applies to dags"
  | .customMethod r s m => grantOf r s ++ " uses custom method '" ++ m ++ "'"
  | .repeatedSubject n => "subject '" ++ n ++ "' is configured more than once"
  | .unknownSignedIn n => "signed_in subject '" ++ n ++ "' is not configured"
  | .repeatedInstance i => "plugin instance '" ++ i ++ "' is already registered"

/-- A wrong set-up is reported as an invalid configuration. -/
def fault (f : SetupFault) : Fault :=
  .invalidConfiguration f.message

end SetupFault

/-! ## Gateways -/

/-- Why a gateway has no answer from its backend. -/
inductive GatewayFault where
  | noBackend (vendor : String)
  | backend (fault : Fault)
  | timedOut (limit : Nat)
  deriving DecidableEq, Repr

namespace GatewayFault

/-- The wording of a gateway's fault. -/
def message : GatewayFault → String
  | .noBackend vendor => "no plugin instances found for vendor '" ++ vendor ++ "'"
  | .backend f => "auth manager plugin error: " ++ f.message
  | .timedOut limit => "decision timed out after " ++ toString limit ++ " ms"

/-- What the gateway's caller is told: the backend's own fault unchanged, a
missing backend as such, a timeout as an internal error. -/
def fault : GatewayFault → Fault
  | .noBackend vendor => .noPluginAvailable vendor
  | .backend f => f
  | .timedOut limit => .internal (message (.timedOut limit))

end GatewayFault

/-! ## Start-up -/

/-- Why a start-up step failed. -/
inductive StartupFault where
  | fault (fault : Fault)
  /-- The plugin or gateway was started before. -/
  | alreadyStarted
  /-- The process-wide manager was set before. -/
  | managerAlreadySet
  deriving DecidableEq, Repr

/-- The wording of a start-up fault. -/
def StartupFault.message : StartupFault → String
  | .fault f => f.message
  | .alreadyStarted => "Service already initialized"
  | .managerAlreadySet => "auth manager already initialized"

end AccessGate
