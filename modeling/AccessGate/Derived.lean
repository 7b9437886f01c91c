/-
# Derived operations

A backend has to answer single questions; the operations on many things follow from
that. They are defined here over any way of asking, `ask : Inquiry → m Bool`, in any
monad, so the same definition runs, is timed, and can be reasoned about without
either.

A question is asked only if its answer matters: a batch stops at the first refusal,
and the DAG filter asks about single ids only if no blanket answer allows them all.
-/
import AccessGate.DagIds
import AccessGate.Fault
import AccessGate.Menu
import AccessGate.Question

namespace AccessGate

/-- The methods the DAG filter considers when it is given none. -/
def dagFilterMethods : List Method :=
  [.put, .get]

namespace Derived

variable {m : Type → Type} [Monad m] (ask : Inquiry → m Bool)

/-! ## Asking about lists -/

/-- Whether all inquiries are answered with yes, asked in order up to the first no. -/
def all : List Inquiry → m Bool
  | [] => return true
  | i :: is => do
      if ← ask i then all is else return false

/-- Whether some inquiry is answered with yes, asked in order up to the first yes. -/
def any : List Inquiry → m Bool
  | [] => return false
  | i :: is => do
      if ← ask i then return true else any is

/-- The items for which `test` says yes, in order. -/
def keep {α : Type} (test : α → m Bool) : List α → m (List α)
  | [] => return []
  | a :: as => do
      let wanted ← test a
      let kept ← keep test as
      return if wanted then a :: kept else kept

/-! ## Batches -/

/-- A batch is allowed if each of its requests is. -/
def batch {k : RecordKind} (rs : List (Request k)) : m Bool :=
  all ask (rs.map Request.inquiry)

/-! ## DAG ids -/

/-- The methods that count among those listed: `GET` and `PUT`, in this order. An
empty list stands for both. -/
def wanted (methods : List Method) : List Method :=
  let methods := if methods = [] then dagFilterMethods else methods
  [.get, .put].filter (methods.contains ·)

/-- One question about DAGs for each wanted method. -/
def dagInquiries (methods : List Method) (details : Option (Details .dag))
    (subject : Option Subject) : List Inquiry :=
  (wanted methods).map fun w => ⟨.record .dag w details, subject⟩

/-- The ids that a subject may act on with one of the methods. A blanket permission
keeps all ids and spares the questions about each. -/
def filterDags (ids : DagIds) (methods : List Method) (subject : Option Subject) : m DagIds := do
  if ← any ask (dagInquiries methods none subject) then return ids
  else
    let kept ← keep (fun id => any ask (dagInquiries methods (some (.ofId id)) subject)) ids.toList
    return .ofList kept

/-- The permitted ones of all DAG ids that a source lists; a source that fails is
reported. -/
def permittedDags (filter : DagIds → List Method → Option Subject → m DagIds)
    (source : m (Except Fault DagIds)) (methods : List Method) (subject : Option Subject) :
    m (Except Fault DagIds) := do
  match ← source with
  | .ok ids => return .ok (← filter ids methods subject)
  | .error f => return .error f

/-! ## Menus -/

/-- The question that guards a menu entry. -/
def menuInquiry (subject : Option Subject) (item : MenuItem) : Inquiry :=
  ⟨.customView (.standard .menu) item.name, subject⟩

/-- The menu as a subject sees it: the entries it may open, each with those of its
children that it may open. What is below a child stays as it is. -/
def filterMenu (subject : Option Subject) : List MenuItem → m (List MenuItem)
  | [] => return []
  | item :: rest => do
      if ← ask (menuInquiry subject item) then
        let children ← keep (fun c => ask (menuInquiry subject c)) item.children
        return item.withChildren children :: (← filterMenu subject rest)
      else
        filterMenu subject rest

end Derived

end AccessGate
