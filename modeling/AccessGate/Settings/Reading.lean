/-
# Reading settings

How each record of settings is read from a document of either format. Every record
refuses members it does not know, so a misspelt restriction is never dropped in
silence. What is missing takes its default.
-/
import AccessGate.Document
import AccessGate.Settings

namespace AccessGate

open Document

variable {δ : Type} [Document δ]

/-- An action, from its word. -/
def Action.read? (d : δ) : Option Action :=
  (text? d).map Action.ofText

/-- A priority, within its range. -/
def priority? (d : δ) : Option Int :=
  (int? d).filter priorityRange

/-- A timeout in milliseconds, within its range. -/
def timeout? (d : δ) : Option Nat :=
  (nat? d).filter timeoutRange

namespace GrantSettings

/-- The members of a grant, in declaration order. -/
def fieldNames : List String :=
  ["resource", "methods", "id", "access_entity"]

/-- A grant as written. -/
def read? (d : δ) : Option GrantSettings := do
  let fs ← fields? .refused fieldNames d
  let resource ← fs.required "resource" word?
  let methods ← fs.required "methods" (list? Action.read?)
  let id ← optional "id" text? fs
  let part ← optional "access_entity" word? fs
  return { resource, methods, id, part }

end GrantSettings

namespace SubjectSettings

/-- The members of a subject, in declaration order. -/
def fieldNames : List String :=
  ["name", "id", "grants"]

/-- A subject as written. -/
def read? (d : δ) : Option SubjectSettings := do
  let fs ← fields? .refused fieldNames d
  let name ← fs.required "name" text?
  let id ← optional "id" text? fs
  let grants ← fs.orDefault "grants" [] (list? GrantSettings.read?)
  return { name, id, grants }

end SubjectSettings

namespace StaticSettings

/-- The members of the static backend's settings, in declaration order. -/
def fieldNames : List String :=
  ["vendor", "priority", "mode", "signed_in", "subjects", "dag_ids"]

/-- The settings of the static backend. -/
def read? (d : δ) : Option StaticSettings := do
  let fs ← fields? .refused fieldNames d
  let vendor ← fs.orDefault "vendor" defaultVendor text?
  let priority ← fs.orDefault "priority" 100 priority?
  let mode ← fs.orDefault "mode" .allowAll word?
  let signedIn ← optional "signed_in" text? fs
  let subjects ← fs.orDefault "subjects" [] (list? SubjectSettings.read?)
  let dagIds ← fs.orDefault "dag_ids" [] (list? text?)
  return { vendor, priority, mode, signedIn, subjects, dagIds }

end StaticSettings

namespace GatewaySettings

/-- The members of a gateway's settings, in declaration order. -/
def fieldNames : List String :=
  ["vendor", "decision_timeout_ms"]

/-- The settings of a gateway. -/
def read? (d : δ) : Option GatewaySettings := do
  let fs ← fields? .refused fieldNames d
  let vendor ← fs.orDefault "vendor" defaultVendor text?
  let timeout ← optional "decision_timeout_ms" timeout? fs
  return { vendor, timeout }

end GatewaySettings

namespace LoggingSettings

/-- The members of the logging settings. -/
def fieldNames : List String :=
  ["level"]

/-- The settings of the program's log. -/
def read? (d : δ) : Option LoggingSettings := do
  let fs ← fields? .refused fieldNames d
  let level ← fs.orDefault "level" "info" text?
  return { level }

end LoggingSettings

namespace AppSettings

/-- The sections of the configuration file, in declaration order. -/
def fieldNames : List String :=
  ["logging", "auth_manager", "static_auth_plugin"]

/-- The whole configuration. -/
def read? (d : δ) : Option AppSettings := do
  let fs ← fields? .refused fieldNames d
  let logging ← fs.orDefault "logging" {} LoggingSettings.read?
  let gateway ← fs.orDefault "auth_manager" {} GatewaySettings.read?
  let static ← fs.orDefault "static_auth_plugin" {} StaticSettings.read?
  return { logging, gateway, static }

end AppSettings

end AccessGate
