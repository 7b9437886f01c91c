/-
# Registries

Backends register under a vendor and a priority; a gateway picks the one to use by
vendor. What is registered is an `Api`: a manager, or the client of a gateway
service, which in turn stands for whatever that service selects.

* `Registry.register` refuses an instance id that is taken;
* `Registry.select?` picks the least priority of a vendor, and among equals the one
  registered first; `Registry.select` is the same with a fault for a vendor that has none.
-/
import AccessGate.Manager
import AccessGate.Text.Quoted

namespace AccessGate

/-! ## What can be registered -/

/-- A gateway service: where it looks for a manager, for which vendor, and the limit
it puts on decisions. The number tells services apart. -/
structure Service where
  number : Nat
  /-- The number of the registry it selects from. -/
  registry : Nat
  vendor : String
  limit : Option Nat
  deriving DecidableEq, Repr

/-- Something that implements the contract. -/
inductive Api where
  | direct (manager : Manager)
  | client (service : Service)

/-- A registered backend. -/
structure Instance where
  id : String
  vendor : String
  /-- Lower values are preferred. -/
  priority : Int
  api : Api

/-- How an instance is shown to programmers, with the name of its backend. -/
def Instance.debugText (i : Instance) (backend : String) : String :=
  "PluginInstance \x7b instance_id: " ++ Text.quoted i.id ++ ", vendor: " ++ Text.quoted i.vendor ++
    ", priority: " ++ toString i.priority ++ ", backend: " ++ Text.quoted backend ++ " \x7d"

/-! ## Registries -/

/-- The registered backends, in the order of their registration. -/
structure Registry where
  instances : List Instance

namespace Registry

/-- The registry of no instances. -/
def empty : Registry :=
  ⟨[]⟩

/-- The number of instances. -/
def size (r : Registry) : Nat :=
  r.instances.length

/-- Whether nothing is registered. -/
def isEmpty (r : Registry) : Bool :=
  r.instances.isEmpty

/-- Add an instance, unless its id is taken. -/
def register (r : Registry) (i : Instance) : Except SetupFault Registry :=
  if r.instances.any fun j => j.id = i.id then .error (.repeatedInstance i.id)
  else .ok ⟨r.instances ++ [i]⟩

/-- The preferred instance of a list: the first one of least priority. -/
def preferred? : List Instance → Option Instance
  | [] => none
  | i :: is =>
      match preferred? is with
      | none => some i
      | some j => if j.priority < i.priority then some j else some i

/-- The preferred instance of a vendor. -/
def select? (r : Registry) (vendor : String) : Option Instance :=
  preferred? (r.instances.filter fun i => i.vendor = vendor)

/-- The preferred instance of a vendor, or the fault that there is none. -/
def select (r : Registry) (vendor : String) : Except Fault Instance :=
  match r.select? vendor with
  | some i => .ok i
  | none => .error (.noPluginAvailable vendor)

end Registry

/-- Only lists of no instances prefer none. -/
theorem Registry.preferred?_eq_none {is : List Instance} :
    Registry.preferred? is = none ↔ is = [] := by
  cases is with
  | nil => simp [Registry.preferred?]
  | cons i is =>
      simp only [Registry.preferred?, reduceCtorEq, iff_false]
      cases Registry.preferred? is with
      | none => simp
      | some j => by_cases h : j.priority < i.priority <;> simp [h]

end AccessGate
