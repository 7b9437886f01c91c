/-
# Settings

The records of the configuration, with their defaults. They say what was written;
whether it makes sense is decided when a backend is built from them.
-/
import AccessGate.Question

namespace AccessGate

/-! ## The static backend -/

/-- How the static backend decides. -/
inductive Mode where
  /-- Whoever is signed in is allowed everything. -/
  | allowAll
  /-- A subject is allowed what one of its grants covers. -/
  | staticGrants
  deriving DecidableEq, Repr

/-- The spelling of a mode. -/
def Mode.name : Mode → String
  | .allowAll => "allow_all"
  | .staticGrants => "static_grants"

instance : Vocabulary Mode where
  all := [.allowAll, .staticGrants]
  name := Mode.name

instance : LawfulVocabulary Mode where
  mem_all a := by cases a <;> simp [Vocabulary.all]
  name_injective a b := by cases a <;> cases b <;> simp [Vocabulary.name, Mode.name]

/-- One allow rule as written. A missing id covers every instance, a missing part
every part. -/
structure GrantSettings where
  resource : Resource
  methods : List Action
  id : Option String := none
  part : Option DagPart := none
  deriving DecidableEq, Repr

/-- A subject with its rules as written. -/
structure SubjectSettings where
  name : String
  id : Option String := none
  grants : List GrantSettings := []
  deriving DecidableEq, Repr

/-- The vendor that backends and gateways name when nothing else is written. -/
def defaultVendor : String :=
  "hyperspot"

/-- The subject signed in by default when everything is allowed. -/
def defaultSubject : String :=
  "admin"

/-- The settings of the static backend. -/
structure StaticSettings where
  vendor : String := defaultVendor
  /-- Lower values are preferred. -/
  priority : Int := 100
  mode : Mode := .allowAll
  /-- The name of the subject treated as signed in. -/
  signedIn : Option String := none
  subjects : List SubjectSettings := []
  /-- The DAG ids the backend's own listing knows. -/
  dagIds : List String := []
  deriving DecidableEq, Repr

/-! ## The gateway and the program -/

/-- The settings of a gateway. -/
structure GatewaySettings where
  vendor : String := defaultVendor
  /-- The longest a decision may take, in milliseconds; `none` is no bound. -/
  timeout : Option Nat := none
  deriving DecidableEq, Repr

/-- The settings of the program's own log. -/
structure LoggingSettings where
  level : String := "info"
  deriving DecidableEq, Repr

/-- The whole configuration file. -/
structure AppSettings where
  logging : LoggingSettings := {}
  gateway : GatewaySettings := {}
  static : StaticSettings := {}
  deriving DecidableEq, Repr

/-- Priorities are 16-bit signed integers. -/
def priorityRange (i : Int) : Bool :=
  decide (-32768 ≤ i ∧ i ≤ 32767)

/-- Timeouts are 64-bit unsigned integers. -/
def timeoutRange (n : Nat) : Bool :=
  decide (n ≤ 18446744073709551615)

end AccessGate
