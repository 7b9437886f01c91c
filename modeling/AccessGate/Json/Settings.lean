/-
# Settings in JSON

Settings written as JSON, with every member and `null` for what is missing. The
timeout is written twice: as a number, and as a text that no reader can round.
-/
import AccessGate.Json.Basic
import AccessGate.Settings

namespace AccessGate

/-- A grant, written with every member. -/
def GrantSettings.toJson (g : GrantSettings) : Json :=
  .object [("resource", .text g.resource.name), ("methods", .list (g.methods.map (.text ·.text))),
    ("id", .optionalText g.id), ("access_entity", .optionalText (g.part.map DagPart.name))]

/-- A subject, written with every member. -/
def SubjectSettings.toJson (s : SubjectSettings) : Json :=
  .object [("name", .text s.name), ("id", .optionalText s.id),
    ("grants", .list (s.grants.map GrantSettings.toJson))]

/-- The settings of the static backend, written with every member. -/
def StaticSettings.toJson (s : StaticSettings) : Json :=
  .object [("vendor", .text s.vendor), ("priority", .int s.priority), ("mode", .text s.mode.name),
    ("signed_in", .optionalText s.signedIn),
    ("subjects", .list (s.subjects.map SubjectSettings.toJson)),
    ("dag_ids", .list (s.dagIds.map .text))]

/-- The settings of a gateway, written with every member. -/
def GatewaySettings.toJson (s : GatewaySettings) : Json :=
  .object [("vendor", .text s.vendor),
    ("decision_timeout_ms", match s.timeout with | some t => .nat t | none => .null),
    ("timeout_text", .optionalText (s.timeout.map toString))]

/-- The logging settings, written with every member. -/
def LoggingSettings.toJson (s : LoggingSettings) : Json :=
  .object [("level", .text s.level)]

/-- The whole configuration, written with every member. -/
def AppSettings.toJson (s : AppSettings) : Json :=
  .object [("logging", s.logging.toJson), ("auth_manager", s.gateway.toJson),
    ("static_auth_plugin", s.static.toJson)]

end AccessGate
