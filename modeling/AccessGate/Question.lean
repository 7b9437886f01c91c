/-
# Authorization questions

A decision is asked about one resource. A record is asked about with a method
and optional details, which narrow the question to one instance; a system view is
asked about by its name alone; a custom view with an action and a name. An
`Inquiry` adds who is asking, a `Request` is an inquiry about a record as it
stands in a batch.

`Question.check` puts every question into one flat form, `Check`, which is what a
table of grants compares with.
-/
import AccessGate.Method
import AccessGate.Resource
import AccessGate.Subject

namespace AccessGate

/-! ## Details -/

/-- What a record of the kind can be divided into. Only DAGs have parts. -/
@[reducible] def RecordKind.Part : RecordKind → Type
  | .dag => DagPart
  | _ => Empty

instance (k : RecordKind) : DecidableEq k.Part :=
  match k with
  | .dag => inferInstanceAs (DecidableEq DagPart)
  | .configuration => inferInstanceAs (DecidableEq Empty)
  | .connection => inferInstanceAs (DecidableEq Empty)
  | .dataset => inferInstanceAs (DecidableEq Empty)
  | .pool => inferInstanceAs (DecidableEq Empty)
  | .variable => inferInstanceAs (DecidableEq Empty)

/-- The details of a question about a record: which instance, and which part of
it. Missing details leave the question open to every instance. -/
structure Details (k : RecordKind) where
  id : Option String := none
  part : Option k.Part := none
  deriving DecidableEq

namespace Details

/-- Details that name one instance. -/
def ofId {k : RecordKind} (id : String) : Details k :=
  ⟨some id, none⟩

/-- The DAG part that the details name; for other kinds there is none. -/
def dagPart : {k : RecordKind} → Details k → Option DagPart
  | .dag, d => d.part
  | _, _ => none

/-- The same details, about one part of a DAG. -/
def withPart (d : Details .dag) (p : DagPart) : Details .dag :=
  ⟨d.id, some p⟩

end Details

/-! ## Questions -/

/-- One question, as the operations of the contract ask it. -/
inductive Question where
  | record (kind : RecordKind) (method : Method) (details : Option (Details kind))
  | view (view : SystemView)
  | customView (action : Action) (name : String)
  deriving DecidableEq

/-- A question in the form that grants are compared with. -/
structure Check where
  resource : Resource
  action : Action
  scope : Option String
  part : Option DagPart
  deriving DecidableEq, Repr

namespace Check

/-- A check of a record, narrowed by its details. -/
def ofDetails (k : RecordKind) (action : Action) (details : Option (Details k)) : Check :=
  ⟨.record k, action, details.bind (·.id), details.bind Details.dagPart⟩

/-- A check of one named instance. -/
def ofScope (resource : Resource) (action : Action) (scope : String) : Check :=
  ⟨resource, action, some scope, none⟩

end Check

namespace Question

/-- The resource a question is about. -/
def resource : Question → Resource
  | .record k _ _ => .record k
  | .view _ => .view
  | .customView _ _ => .customView

/-- The flat form of a question. A system view is read, so it is asked about with
`GET`; views of both sorts are scoped by their name. -/
def check : Question → Check
  | .record k m d => .ofDetails k (.standard m) d
  | .view v => .ofScope .view (.standard .get) v.name
  | .customView a n => .ofScope .customView a n

end Question

/-! ## Who asks -/

/-- A question together with the subject it is asked for; `none` is nobody. -/
structure Inquiry where
  question : Question
  subject : Option Subject
  deriving DecidableEq

/-- An inquiry about records of one kind, as batches list them. -/
structure Request (k : RecordKind) where
  method : Method
  details : Option (Details k) := none
  subject : Option Subject := none
  deriving DecidableEq

namespace Request

/-- The inquiry that a request stands for. -/
def inquiry {k : RecordKind} (r : Request k) : Inquiry :=
  ⟨.record k r.method r.details, r.subject⟩

/-- The same request, narrowed by details. -/
def withDetails {k : RecordKind} (r : Request k) (d : Details k) : Request k :=
  ⟨r.method, some d, r.subject⟩

/-- The same request, asked for a subject. -/
def withSubject {k : RecordKind} (r : Request k) (s : Subject) : Request k :=
  ⟨r.method, r.details, some s⟩

end Request

end AccessGate
