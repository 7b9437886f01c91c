/-
# Requests and menus in JSON

How subjects, details, requests and menu entries are written and read. Writing
gives every member, `null` for what is missing; reading ignores members it does not
know.

A menu entry holds entries, so it is read with a bound on how many containers may
stand inside each other; `MenuItem.ofJson?` takes a bound that is large enough for
the value at hand, `MenuItem.maxNesting` is the bound for texts.
-/
import AccessGate.Json.Document
import AccessGate.Menu
import AccessGate.Question

namespace AccessGate

open Document

/-! ## Subjects -/

namespace Subject

/-- The members of a subject, in declaration order. -/
def fieldNames : List String :=
  ["id", "name"]

/-- A subject, written with every member. -/
def toJson (s : Subject) : Json :=
  .object [("id", .optionalText s.id), ("name", .text s.name)]

/-- A subject; the name has to be there. -/
def ofJson? (j : Json) : Option Subject := do
  let fs ← fields? .ignored fieldNames j
  let id ← optional "id" text? fs
  let name ← fs.required "name" text?
  return { id, name }

/-- A subject, or `null` for nobody. -/
def optionalToJson : Option Subject → Json
  | some s => s.toJson
  | none => .null

end Subject

/-! ## Details -/

namespace RecordKind

/-- The member of a details record that names the instance. -/
def idField : RecordKind → String
  | .configuration => "section"
  | .connection => "conn_id"
  | .dag => "id"
  | .dataset => "uri"
  | .pool => "name"
  | .variable => "key"

/-- The member of a details record that names the part, for kinds that have parts. -/
def partField : String :=
  "access_entity"

/-- The members of a details record, in declaration order. -/
def fieldNames : RecordKind → List String
  | .dag => [idField .dag, partField]
  | k => [idField k]

end RecordKind

namespace Details

/-- Details, written with every member. -/
def toJson : {k : RecordKind} → Details k → Json
  | .dag, d =>
      .object [(RecordKind.idField .dag, .optionalText d.id),
        (RecordKind.partField, .optionalText (d.part.map DagPart.name))]
  | k, d => .object [(k.idField, .optionalText d.id)]

/-- The part that a details record names. Kinds without parts have no such member. -/
def readPart? : (k : RecordKind) → Fields Json → Option (Option k.Part)
  | .dag, fs => optional RecordKind.partField (word? : Json → Option DagPart) fs
  | .configuration, _ => some none
  | .connection, _ => some none
  | .dataset, _ => some none
  | .pool, _ => some none
  | .variable, _ => some none

/-- Details of the given kind; every member may be missing. -/
def ofJson? (k : RecordKind) (j : Json) : Option (Details k) := do
  let fs ← fields? .ignored k.fieldNames j
  let id ← optional k.idField text? fs
  let part ← readPart? k fs
  return { id, part }

/-- Details, or `null` for none. -/
def optionalToJson {k : RecordKind} : Option (Details k) → Json
  | some d => d.toJson
  | none => .null

end Details

/-! ## Requests -/

namespace Request

/-- The members of a request, in declaration order. -/
def fieldNames : List String :=
  ["method", "details", "subject"]

/-- A request, written with every member. -/
def toJson {k : RecordKind} (r : Request k) : Json :=
  .object [("method", .text r.method.name), ("details", Details.optionalToJson r.details),
    ("subject", Subject.optionalToJson r.subject)]

/-- A request of the given kind; the method has to be there. -/
def ofJson? (k : RecordKind) (j : Json) : Option (Request k) := do
  let fs ← fields? .ignored fieldNames j
  let method ← fs.required "method" word?
  let details ← optional "details" (Details.ofJson? k) fs
  let subject ← optional "subject" Subject.ofJson? fs
  return { method, details, subject }

end Request

/-! ## Menu entries -/

namespace MenuItem

/-- The members of a menu entry, in declaration order. -/
def fieldNames : List String :=
  ["name", "label", "href", "children"]

mutual

/-- A menu entry, written with every member. -/
def toJson : MenuItem → Json
  | mk n l h cs =>
      .object [("name", .text n), ("label", .text l), ("href", .optionalText h),
        ("children", .list (listToJson cs))]

/-- The entries of a menu, each written with every member. -/
def listToJson : List MenuItem → List Json
  | [] => []
  | i :: is => toJson i :: listToJson is

end

/-- A menu entry in which at most `bound` containers stand inside each other: the
entry itself is one, the list of its children the next. -/
def read? : (bound : Nat) → Json → Option MenuItem
  | 0, _ => none
  | bound + 1, j => do
      let fs ← fields? .ignored fieldNames j
      let name ← fs.required "name" text?
      let label ← fs.required "label" text?
      let href ← optional "href" text? fs
      let children ← fs.orDefault "children" [] fun d =>
        match bound with
        | 0 => none
        | bound + 1 => list? (read? bound) d
      return mk name label href children

/-- How many containers may stand inside each other in a text. -/
def maxNesting : Nat :=
  127

end MenuItem

namespace Json

mutual

/-- How many containers of a value stand inside each other at most. -/
def depth : Json → Nat
  | .list vs => depthOfItems vs + 1
  | .object ms => depthOfMembers ms + 1
  | _ => 0

/-- The greatest depth in a list. -/
def depthOfItems : List Json → Nat
  | [] => 0
  | v :: vs => max (depth v) (depthOfItems vs)

/-- The greatest depth under the members of an object. -/
def depthOfMembers : List (String × Json) → Nat
  | [] => 0
  | (_, v) :: ms => max (depth v) (depthOfMembers ms)

end

end Json

/-- A menu entry of any depth. -/
def MenuItem.ofJson? (j : Json) : Option MenuItem :=
  MenuItem.read? (j.depth + 1) j

end AccessGate
