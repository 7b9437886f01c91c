/-
# Grants

A grant is an allow rule that has been found sound: it lists a method, it speaks of
a part only where there are parts, and it uses words of its own only for custom
views.

* `Grant.ofSettings` turns a written rule into a grant or names its first fault;
* `Grant.covers` says which checks a grant allows;
* `Grant.describe` is the line shown to operators.
-/
import AccessGate.Fault
import AccessGate.Settings

namespace AccessGate

/-- A sound allow rule. A missing id covers every instance, a missing part every
part. -/
structure Grant where
  resource : Resource
  methods : List Action
  id : Option String
  part : Option DagPart
  deriving DecidableEq, Repr

namespace Grant

/-- The rule of a subject as a grant, or its first fault: no methods, then a part
outside DAGs, then the first word of its own outside custom views. -/
def ofSettings (subject : String) (s : GrantSettings) : Except SetupFault Grant :=
  if s.methods = [] then
    .error (.noMethods s.resource subject)
  else if s.part ≠ none ∧ s.resource ≠ .record .dag then
    .error (.partOutsideDags s.resource subject)
  else
    match s.methods.find? fun a => s.resource ≠ .customView && !a.isStandard with
    | some a => .error (.customMethod s.resource subject a.text)
    | none => .ok ⟨s.resource, s.methods, s.id, s.part⟩

/-- Whether a restriction, if there is one, is met exactly. -/
def admits {α : Type} [DecidableEq α] (restriction asked : Option α) : Bool :=
  restriction = none || asked = restriction

/-- Without a restriction everything is admitted. -/
@[simp]
theorem admits_none {α : Type} [DecidableEq α] (asked : Option α) : admits none asked = true :=
  rfl

/-- A restriction admits what names it and nothing else. -/
@[simp]
theorem admits_some {α : Type} [DecidableEq α] (a : α) (asked : Option α) :
    admits (some a) asked = decide (asked = some a) := by
  simp [admits]

/-- Whether the grant allows a check: it is about the check's resource, lists its
action, and its id and part admit those of the check. -/
def covers (g : Grant) (c : Check) : Bool :=
  g.resource = c.resource && g.methods.contains c.action && admits g.id c.scope &&
    admits g.part c.part

/-- The grant on one line: what it is on, the instance or a star, the methods, and
the part in brackets. -/
def describe (g : Grant) : String :=
  let part := match g.part with
    | some p => " (" ++ p.name ++ ")"
    | none => ""
  g.resource.name ++ " " ++ g.id.getD "*" ++ " " ++
    ",".intercalate (g.methods.map Action.text) ++ part

end Grant

end AccessGate
