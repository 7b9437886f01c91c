/-
# Protected resources

The closed list of what can be protected. Six kinds are *records*: a check on
them may be narrowed to one instance by details (`RecordKind`). Custom views and
system views are named in the check itself.

DAG checks can further be about one part of a DAG (`DagPart`), and system views
form a vocabulary of their own (`SystemView`).
-/
import AccessGate.Vocabulary

namespace AccessGate

/-! ## Kinds -/

/-- The kinds of resource whose instances are told apart by a details record. -/
inductive RecordKind where
  | configuration
  | connection
  | dag
  | dataset
  | pool
  | variable
  deriving DecidableEq, Repr

namespace RecordKind

/-- The spelling of a record kind. -/
def name : RecordKind → String
  | .configuration => "configuration"
  | .connection => "connection"
  | .dag => "dag"
  | .dataset => "dataset"
  | .pool => "pool"
  | .variable => "variable"

/-- The kinds whose checks can be asked in batches. -/
def supportsBatch : RecordKind → Bool
  | .connection | .dag | .pool | .variable => true
  | .configuration | .dataset => false

end RecordKind

/-- Everything that can be protected. -/
inductive Resource where
  | record (kind : RecordKind)
  | customView
  | view
  deriving DecidableEq, Repr

namespace Resource

/-- The spelling of a resource kind. -/
def name : Resource → String
  | .record k => k.name
  | .customView => "custom_view"
  | .view => "view"

/-- Whether checks of this kind can be asked in batches. -/
def supportsBatch : Resource → Bool
  | .record k => k.supportsBatch
  | _ => false

instance : Vocabulary Resource where
  all := [.record .configuration, .record .connection, .record .dag, .record .dataset,
    .record .pool, .record .variable, .customView, .view]
  name := name

instance : LawfulVocabulary Resource where
  mem_all a := by
    cases a with
    | record k => cases k <;> simp [Vocabulary.all]
    | customView => simp [Vocabulary.all]
    | view => simp [Vocabulary.all]
  name_injective a b := by
    rcases a with (_ | _ | _ | _ | _ | _) | _ | _ <;>
      rcases b with (_ | _ | _ | _ | _ | _) | _ | _ <;>
        simp [Vocabulary.name, name, RecordKind.name]

/-- The kind spelled exactly `s`. -/
def parse (s : String) : Except UnknownName Resource :=
  match Vocabulary.ofName? s with
  | some r => .ok r
  | none => .error ⟨.resource, s⟩

end Resource

/-! ## Parts of a DAG -/

/-- The information of a DAG that a check can be about. -/
inductive DagPart where
  | auditLog
  | code
  | dependencies
  | run
  | slaMiss
  | task
  | taskInstance
  | taskLogs
  | taskReschedule
  | warning
  | xcom
  deriving DecidableEq, Repr

namespace DagPart

/-- The spelling of a DAG part. -/
def name : DagPart → String
  | .auditLog => "audit_log"
  | .code => "code"
  | .dependencies => "dependencies"
  | .run => "run"
  | .slaMiss => "sla_miss"
  | .task => "task"
  | .taskInstance => "task_instance"
  | .taskLogs => "task_logs"
  | .taskReschedule => "task_reschedule"
  | .warning => "warning"
  | .xcom => "xcom"

instance : Vocabulary DagPart where
  all := [.auditLog, .code, .dependencies, .run, .slaMiss, .task, .taskInstance, .taskLogs,
    .taskReschedule, .warning, .xcom]
  name := name

instance : LawfulVocabulary DagPart where
  mem_all a := by cases a <;> simp [Vocabulary.all]
  name_injective a b := by cases a <;> cases b <;> simp [Vocabulary.name, name]

/-- The DAG part spelled exactly `s`. -/
def parse (s : String) : Except UnknownName DagPart :=
  match Vocabulary.ofName? s with
  | some p => .ok p
  | none => .error ⟨.dagPart, s⟩

end DagPart

/-! ## System views -/

/-- The read-only views of the installation. -/
inductive SystemView where
  | clusterActivity
  | docs
  | importErrors
  | jobs
  | plugins
  | providers
  | triggers
  | website
  deriving DecidableEq, Repr

namespace SystemView

/-- The spelling of a system view. -/
def name : SystemView → String
  | .clusterActivity => "cluster_activity"
  | .docs => "docs"
  | .importErrors => "import_errors"
  | .jobs => "jobs"
  | .plugins => "plugins"
  | .providers => "providers"
  | .triggers => "triggers"
  | .website => "website"

instance : Vocabulary SystemView where
  all := [.clusterActivity, .docs, .importErrors, .jobs, .plugins, .providers, .triggers, .website]
  name := name

instance : LawfulVocabulary SystemView where
  mem_all a := by cases a <;> simp [Vocabulary.all]
  name_injective a b := by cases a <;> cases b <;> simp [Vocabulary.name, name]

/-- The system view spelled exactly `s`. -/
def parse (s : String) : Except UnknownName SystemView :=
  match Vocabulary.ofName? s with
  | some v => .ok v
  | none => .error ⟨.systemView, s⟩

end SystemView

end AccessGate
