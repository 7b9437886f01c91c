/-
# Decisions through gateways

The operations a gateway bounds are the same in one respect: if the manager behind does
not answer in time, the answer is a denial. `Decision` collects them with what they are
asked, so that what a limit does is said once for all of them.

* `Decision.ask_behind` : through a gateway a decision is the manager's, with the limit;
* `Decision.value_decided`, `Decision.elapsed_decided`, `Decision.timeline_decided` : what
  the limit does to the answer, the time and the calls;
* `Decision.ask_behindAll` : gateways behind each other are one gateway with the
  strictest of their limits.
-/
import AccessGate.Manager.Gateway
import AccessGate.Proofs.Timeline

namespace AccessGate

/-! ## Decision operations -/

/-- A decision operation with what it is asked. -/
inductive Decision where
  | check (inquiry : Inquiry)
  | batch {k : RecordKind} (requests : List (Request k))
  | filterDags (ids : DagIds) (methods : List Method) (subject : Option Subject)
  | permittedDags (source : DagSource) (methods : List Method) (subject : Option Subject)
  | filterMenu (items : List MenuItem) (subject : Option Subject)

namespace Decision

/-- What a decision answers. -/
@[reducible] def Answer : Decision → Type
  | check _ => Bool
  | batch _ => Bool
  | filterDags _ _ _ => DagIds
  | permittedDags _ _ _ => Except Fault DagIds
  | filterMenu _ _ => List MenuItem

/-- The answer that allows nothing. -/
def denial : (d : Decision) → d.Answer
  | check _ => false
  | batch _ => false
  | filterDags _ _ _ => .empty
  | permittedDags _ _ _ => .ok .empty
  | filterMenu _ _ => []

/-- The operation a decision is logged as. -/
def operation : Decision → Operation
  | check i => .check i.question.resource
  | @batch k _ => .batch k
  | filterDags _ _ _ => .filterDags
  | permittedDags _ _ _ => .permittedDags
  | filterMenu _ _ => .filterMenu

/-- Ask a manager for the decision. -/
def ask : (d : Decision) → Manager → Run d.Answer
  | check i, m => m.check i
  | batch rs, m => m.batch rs
  | filterDags ids methods subject, m => m.filterDags ids methods subject
  | permittedDags source methods subject, m => m.permittedDags source methods subject
  | filterMenu items subject, m => m.filterMenu items subject

/-! ## Decisions with a limit -/

/-- A run with a limit, whose answer is the denial if it does not answer in time. -/
def decided {α : Type} (operation : Operation) (denial : α) (limit : Option Nat) (r : Run α) :
    Run α := do
  denyUnlessDecided operation denial (← r.within limit)

/-- **Each decision through a gateway is bounded as a whole.** -/
theorem ask_behind (d : Decision) (limit : Option Nat) (m : Manager) :
    d.ask (m.behind limit) = decided d.operation d.denial limit (d.ask m) := by
  cases d <;> rfl

/-- A run that keeps within its limit is left as it is. -/
theorem decided_of_inTime {α : Type} {operation : Operation} {denial : α} {limit : Option Nat}
    {r : Run α} (h : InTime limit r.elapsed) : decided operation denial limit r = r := by
  have hwithin : r.within limit = Except.ok <$> r := by
    cases limit with
    | none => rfl
    | some l => exact Run.within_of_elapsed_le (inTime_some.mp h)
  rw [decided, hwithin, bind_map_left]
  exact bind_pure r

section Decided

variable {α : Type} (operation : Operation) (denial : α) (limit : Option Nat)

/-- The answer is the run's own if it comes in time, and the denial otherwise. -/
theorem value_decided (r : Run α) :
    (decided operation denial limit r).value =
      if InTime limit r.elapsed then r.value else denial := by
  rw [decided, Run.value_bind, Run.value_within]
  by_cases h : InTime limit r.elapsed
  · rw [if_pos h, if_pos h]
    rfl
  · rw [if_neg h, if_neg h]
    rfl

/-- To deny takes no time. -/
theorem elapsed_decided (r : Run α) :
    (decided operation denial limit r).elapsed = capped limit r.elapsed := by
  rw [decided, Run.elapsed_bind, Run.elapsed_within]
  cases (r.within limit).value <;> rfl

/-- The calls are those that the run makes in time. -/
theorem timeline_decided (r : Run α) :
    (decided operation denial limit r).timeline =
      r.timeline.filter fun c => InTime limit c.1 := by
  rw [decided, Run.timeline_bind, Run.timeline_within]
  have hlast : ∀ (now : Nat) (x : Except GatewayFault α),
      Run.timelineFrom now (denyUnlessDecided operation denial x).steps = [] := by
    intro now x
    cases x <;> rfl
  rw [hlast, List.append_nil]

end Decided

/-- A limit treats runs alike that agree. -/
theorem decided_agrees {α : Type} {operation operation' : Operation} {denial : α}
    {limit : Option Nat} {r s : Run α} (h : r.Agrees s) :
    (decided operation denial limit r).Agrees (decided operation' denial limit s) where
  value := by rw [value_decided, value_decided, h.value, h.elapsed]
  elapsed := by rw [elapsed_decided, elapsed_decided, h.elapsed]
  timeline := by rw [timeline_decided, timeline_decided, h.timeline]

/-- **Two limits with one denial are the stricter of the two.** Whichever comes first
leaves a denial behind, which the other passes on. -/
theorem decided_decided {α : Type} (operation : Operation) (denial : α) (l l' : Option Nat)
    (r : Run α) :
    (decided operation denial l (decided operation denial l' r)).Agrees
      (decided operation denial (stricter l l') r) where
  value := by
    simp only [value_decided, elapsed_decided, inTime_stricter]
    -- past the inner limit the answer is the denial, whether or not the outer one is kept
    by_cases h' : InTime l' r.elapsed
    · simp only [capped_of_inTime h', h', and_true, if_true]
    · simp only [h', and_false, if_false, ite_self]
  elapsed := by
    rw [elapsed_decided, elapsed_decided, elapsed_decided, capped_capped]
  timeline := by
    rw [timeline_decided, timeline_decided, timeline_decided, List.filter_filter]
    congr 1
    funext c
    rw [← Bool.decide_and, decide_eq_decide, inTime_stricter]

/-! ## Gateways behind each other -/

/-- The least of some limits, and no limit if none of them is one. -/
def strictest (limits : List (Option Nat)) : Option Nat :=
  (limits.filterMap id).min?

/-- The strictest limit is the stricter of the first and the strictest of the others. -/
theorem strictest_cons (l : Option Nat) (ls : List (Option Nat)) :
    strictest (l :: ls) = stricter l (strictest ls) := by
  cases l with
  | none => simp [strictest, stricter]
  | some l =>
      have hcons : (some l :: ls).filterMap id = l :: ls.filterMap id := rfl
      rw [strictest, hcons, List.min?_cons, ← strictest]
      cases strictest ls <;> rfl

end Decision

/-- A manager behind gateways with these limits, the first of which is asked. -/
def Manager.behindAll (limits : List (Option Nat)) (m : Manager) : Manager :=
  limits.foldr Manager.behind m

/-- **A chain of gateways agrees with one gateway that has the strictest limit.** -/
theorem Decision.ask_behindAll (d : Decision) (limits : List (Option Nat)) (m : Manager) :
    (d.ask (m.behindAll limits)).Agrees (d.ask (m.behind (strictest limits))) := by
  induction limits with
  | nil =>
      have hnone : decided d.operation d.denial none (d.ask m) = d.ask m :=
        decided_of_inTime (inTime_none _)
      rw [ask_behind, strictest, List.filterMap_nil, List.min?_nil, hnone]
      exact .refl (d.ask m)
  | cons l ls ih =>
      rw [ask_behind] at ih
      have houter : d.ask (m.behindAll (l :: ls)) =
          decided d.operation d.denial l (d.ask (m.behindAll ls)) := ask_behind d l _
      rw [houter, ask_behind, strictest_cons]
      -- the chain behind the first gateway is one gateway, and two limits are one
      exact (decided_agrees ih).trans (decided_decided d.operation d.denial l _ _)

end AccessGate
