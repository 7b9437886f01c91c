/-
# Tables of grants

The static backend decides from a table: subjects with their grants, a mode and the
subject that is signed in. Names are distinct in a table that was built from
settings.

* `GrantTable.ofSettings` builds a table or names the first fault in document order;
* `GrantTable.allows` is the decision;
* `GrantTable.denials` is what is logged about it;
* `GrantTable.listing` is the text operators see.
-/
import AccessGate.Grant
import AccessGate.Log

namespace AccessGate

/-! ## Entries -/

/-- A configured subject with its grants. -/
structure Entry where
  subject : Subject
  grants : List Grant
  deriving DecidableEq, Repr

namespace Entry

/-- The entry that a subject's settings describe, or the first fault of its grants.
An empty id is no id. -/
def ofSettings (s : SubjectSettings) : Except SetupFault Entry := do
  let grants ← s.grants.mapM (Grant.ofSettings s.name)
  return ⟨⟨s.id.filter (· ≠ ""), s.name⟩, grants⟩

/-- Whether a caller of the entry's name is the configured subject: a configured id
has to be the caller's. -/
def admits (e : Entry) (s : Subject) : Bool :=
  Grant.admits e.subject.id s.id

end Entry

/-! ## Tables -/

/-- What the static backend decides from. -/
structure GrantTable where
  mode : Mode
  entries : List Entry
  /-- The subject that is signed in. -/
  current : Option Subject
  deriving DecidableEq, Repr

namespace GrantTable

/-- The entries that subjects' settings describe. A name that an earlier subject has
is a fault of the later one, found after the faults of its grants. -/
def entriesOf (seen : List String) : List SubjectSettings → Except SetupFault (List Entry)
  | [] => .ok []
  | s :: rest => do
      let entry ← Entry.ofSettings s
      if s.name ∈ seen then .error (.repeatedSubject s.name)
      else return entry :: (← entriesOf (s.name :: seen) rest)

/-- The entry of a name. -/
def find? (name : String) (entries : List Entry) : Option Entry :=
  entries.find? fun e => e.subject.name = name

/-- Who is signed in: the subject named in the settings, which has to be configured;
if none is named and everything is allowed, the default subject. -/
def signedIn (s : StaticSettings) (entries : List Entry) :
    Except SetupFault (Option Subject) :=
  match s.signedIn, s.mode with
  | some name, _ =>
      match find? name entries with
      | some e => .ok (some e.subject)
      | none => .error (.unknownSignedIn name)
  | none, .allowAll =>
      match find? defaultSubject entries with
      | some e => .ok (some e.subject)
      | none => .ok (some (.withoutId defaultSubject))
  | none, .staticGrants => .ok none

/-- The table that settings describe, or their first fault. -/
def ofSettings (s : StaticSettings) : Except SetupFault GrantTable := do
  let entries ← entriesOf [] s.subjects
  let current ← signedIn s entries
  return ⟨s.mode, entries, current⟩

/-- The same table with another subject, or nobody, signed in. -/
def withCurrent (t : GrantTable) (s : Option Subject) : GrantTable :=
  { t with current := s }

/-- The configured subject of a name. -/
def subject? (t : GrantTable) (name : String) : Option Subject :=
  (find? name t.entries).map (·.subject)

/-- The configured grants of a name. -/
def grants? (t : GrantTable) (name : String) : Option (List Grant) :=
  (find? name t.entries).map (·.grants)

/-! ## Decisions -/

/-- The grants that a caller holds: those under its name, if its id is right. -/
def grantsFor (t : GrantTable) (s : Subject) : List Grant :=
  match find? s.name t.entries with
  | some e => if e.admits s then e.grants else []
  | none => []

/-- The decision. Without a subject it is a denial. -/
def allows (t : GrantTable) (c : Check) : Option Subject → Bool
  | none => false
  | some s =>
      match t.mode with
      | .allowAll => true
      | .staticGrants => (t.grantsFor s).any (·.covers c)

/-- Nobody is never allowed anything. -/
@[simp]
theorem allows_none (t : GrantTable) (c : Check) : t.allows c none = false :=
  rfl

/-- The decision on a question. -/
def permits (t : GrantTable) (i : Inquiry) : Bool :=
  t.allows i.question.check i.subject

/-- Whether a caller has a configured name but not its id. -/
def isImpostor (t : GrantTable) (s : Subject) : Bool :=
  match find? s.name t.entries with
  | some e => !e.admits s
  | none => false

/-- What is logged about a decision: nothing if it allows. -/
def denials (t : GrantTable) (i : Inquiry) : List LogEvent :=
  if t.permits i then []
  else
    match i.subject with
    | none => [.deniedNobody i.question.check]
    | some s =>
        (if t.isImpostor s then [.deniedOtherId s] else []) ++
          [.deniedUncovered i.question.check s]

/-- What is allowed is not logged. -/
theorem denials_eq_nil {t : GrantTable} {i : Inquiry} (h : t.permits i = true) :
    t.denials i = [] := by
  simp [denials, h]

/-! ## For operators -/

/-- The grants of a name, for operators to read. -/
def listing (t : GrantTable) (name : String) : String :=
  match t.mode, t.grants? name with
  | .allowAll, _ =>
      "mode allow_all: every signed-in subject, including '" ++ name ++
        "', is allowed everything"
  | .staticGrants, none => "subject '" ++ name ++ "' is not configured"
  | .staticGrants, some [] => "subject '" ++ name ++ "' has no grants"
  | .staticGrants, some grants =>
      "grants of '" ++ name ++ "':\n" ++
        "\n".intercalate (grants.map fun g => "  " ++ g.describe)

end GrantTable

end AccessGate
