/-
# The log

What happens is logged as events. An event is a cause with its data; its level, its
message and its fields, all of them texts, follow from the cause.
-/
import AccessGate.Fault
import AccessGate.Settings

namespace AccessGate

/-! ## Operations -/

/-- The operations of the contract that a log can mention. -/
inductive Operation where
  | start
  | runCommand
  | subject
  | subjectName
  | displayName
  | subjectId
  | check (resource : Resource)
  | batch (kind : RecordKind)
  | filterDags
  | permittedDags
  | filterMenu
  deriving DecidableEq, Repr

/-- The name an operation is logged under. -/
def Operation.name : Operation → String
  | .start => "init"
  | .runCommand => "run_cli_command"
  | .subject => "get_subject"
  | .subjectName => "get_subject_name"
  | .displayName => "get_subject_display_name"
  | .subjectId => "get_subject_id"
  | .check r => "is_authorized_" ++ r.name
  | .batch k => "batch_is_authorized_" ++ k.name
  | .filterDags => "filter_permitted_dag_ids"
  | .permittedDags => "get_permitted_dag_ids"
  | .filterMenu => "filter_permitted_menu_items"

/-! ## Events -/

/-- How much an event matters. -/
inductive Level where
  | debug
  | info
  | warn
  | error
  deriving DecidableEq, Repr

/-- The spelling of a level. -/
def Level.name : Level → String
  | .debug => "DEBUG"
  | .info => "INFO"
  | .warn => "WARN"
  | .error => "ERROR"

/-- Something worth logging. -/
inductive LogEvent where
  /-- A check was denied because nobody asked. -/
  | deniedNobody (check : Check)
  /-- The subject's name is known under another id. -/
  | deniedOtherId (subject : Subject)
  /-- A check was denied because no grant covers it. -/
  | deniedUncovered (check : Check) (subject : Subject)
  /-- The operation needs an identity and nobody is signed in. -/
  | notSignedIn (operation : Operation)
  | instanceRegistered (id vendor : String) (priority : Int)
  | instanceSelected (vendor id : String) (priority : Int) (backend : String)
  /-- A gateway could not pass an operation on. -/
  | callFailed (operation : Operation)
  /-- A gateway denied because it could not get a decision. -/
  | decisionUnavailable (operation : Operation) (fault : GatewayFault)
  | gatewayStarting (vendor : String)
  | gatewayStarted (backend : String)
  | staticLoaded (mode : Mode) (subjects : Nat)
  | staticRegistered (id : String)
  | staticReady (mode : Mode)
  deriving DecidableEq, Repr

namespace LogEvent

/-- How much the event matters. -/
def level : LogEvent → Level
  | deniedNobody _ | deniedOtherId _ | deniedUncovered _ _ | instanceRegistered _ _ _ => .debug
  | notSignedIn _ | callFailed _ => .error
  | decisionUnavailable _ _ => .warn
  | instanceSelected _ _ _ _ | gatewayStarting _ | gatewayStarted _ | staticLoaded _ _
  | staticRegistered _ | staticReady _ => .info

/-- What the event says. -/
def message : LogEvent → String
  | deniedNobody _ => "Denied: no subject"
  | deniedOtherId _ => "Denied: subject id does not match the configured one"
  | deniedUncovered _ _ => "Denied: no grant covers the check"
  | notSignedIn o => o.name ++ " called but the subject is not signed in"
  | instanceRegistered _ _ _ => "Registered auth manager plugin instance"
  | instanceSelected _ _ _ _ => "Selected auth manager plugin"
  | callFailed _ => "auth_manager gateway call failed"
  | decisionUnavailable _ _ => "auth_manager decision unavailable, denying"
  | gatewayStarting _ => "Initializing auth_manager gateway"
  | gatewayStarted _ => "auth_manager gateway initialized"
  | staticLoaded _ _ => "Loaded plugin configuration"
  | staticRegistered _ => "Registered static auth plugin instance"
  | staticReady _ => "Static auth manager ready"

/-- A field whose value may be missing, in which case the field is. -/
def optionalField (name : String) : Option String → List (String × String)
  | some v => [(name, v)]
  | none => []

/-- The fields of the event. -/
def fields : LogEvent → List (String × String)
  | deniedNobody c => [("kind", c.resource.name), ("method", c.action.text)]
  | deniedOtherId s => ("subject", s.name) :: optionalField "id" s.id
  | deniedUncovered c s =>
      [("subject", s.name), ("kind", c.resource.name), ("method", c.action.text)] ++
        optionalField "scope_id" c.scope
  | notSignedIn _ => []
  | instanceRegistered i v p => [("instance_id", i), ("vendor", v), ("priority", toString p)]
  | instanceSelected v i p b =>
      [("vendor", v), ("instance_id", i), ("priority", toString p), ("backend", b)]
  | callFailed o => [("operation", o.name)]
  | decisionUnavailable o f => [("operation", o.name), ("error", f.message)]
  | gatewayStarting v => [("vendor", v)]
  | gatewayStarted b => [("backend", b)]
  | staticLoaded m n => [("mode", m.name), ("subjects", toString n)]
  | staticRegistered i => [("instance_id", i)]
  | staticReady m => [("mode", m.name)]

end LogEvent

end AccessGate
