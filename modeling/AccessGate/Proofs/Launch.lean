/-
# All that a launch can do

A launch begins by looking at its gateway. If that is set, the launch is refused, and nothing
has happened; if the registry has nothing for the vendor, only a service is made. Otherwise
the new service selects, and the backend's start runs until it waits, or to its end, where
the gateway is set unless it is set already.

* `Deployment.Onward` : what a program can do next;
* `StartCall.choice?`, `StartCall.hook` : the instance that a call selects, and the backend's
  start that it runs;
* `Launch.Goes` : all that running a backend's start can come to, which is what
  `Launch.proceed_goes` says;
* `Launch.begin_cases` : all that beginning can come to.
-/
import AccessGate.Proofs.Bulk
import AccessGate.Proofs.StartQueue

namespace AccessGate

/-! ## What a program does next -/

namespace Deployment

variable {d d' : Deployment} {s : Service}

/-- A service that is not made yet has selected nothing. -/
theorem Sound.selected?_eq_none (hd : d.Sound) (hs : d.services ≤ s.number) :
    d.selected? s = none := by
  cases h : d.selected? s with
  | none => rfl
  | some api => exact absurd (hd.selecting _ (mem_of_selected? h)) (Nat.not_lt.mpr hs)

/-- What a program can do next with a deployment. -/
inductive Onward (d : Deployment) : Deployment → Prop where
  | newRegistry : Onward d (newRegistry.run d).value.2
  | register (number : Nat) {i : Instance} :
      d.Knows i.api → Onward d ((register number i).run d).value.2
  | newService (registry : Nat) (s : GatewaySettings) :
      Onward d ((newService registry s).run d).value.2
  | select {s : Service} : s.number < d.services → Onward d ((select s).run d).value.2

namespace Onward

/-- It leads to deployments that a program can come to. -/
theorem reachable (h : d.Onward d') (hd : d.Reachable) : d'.Reachable := by
  cases h with
  | newRegistry => exact hd.newRegistry
  | register number hi => exact hd.register number hi
  | newService registry s => exact hd.newService registry s
  | select hs => exact hd.select hs

/-- It takes nothing back. -/
theorem persists (h : d.Onward d') : d.Persists d' := by
  cases h with
  | newRegistry => exact ⟨Nat.le_refl _, fun _ _ h => h⟩
  | register number hi => exact (Keeps.register number _ d).persists
  | newService registry s => exact .moreServices d 1
  | select hs => exact (Keeps.select _ d).persists

end Onward

end Deployment

/-! ## Runs that do not wait -/

/-- Whether a step is a wait, however short. -/
def Step.isWait : Step → Bool
  | wait _ => true
  | _ => false

/-- The answer of a run that does not wait. -/
def Run.atOnce? {α : Type} (r : Run α) : Option α :=
  if r.steps.any Step.isWait then none else some r.value

theorem Run.value_of_atOnce? {α : Type} {r : Run α} {a : α} (h : r.atOnce? = some a) :
    r.value = a := by
  rw [atOnce?] at h
  split at h
  · cases h
  · exact Option.some.inj h

/-! ## Running a backend's start -/

namespace Launch

/-- The service of a launch that has selected its backend and not failed. -/
def service? : Launch → Option Service
  | waiting service _ _ => some service
  | finished (.ok service) => some service
  | finished (.error _) => none

/-- What running a backend's start can come to, with the gateway before and after: the launch
waits, with less left of the start; the start fails; it succeeds, and the gateway is set
already; or it succeeds and sets the gateway. -/
inductive Goes (service : Service) (hook : Run (Except Fault Unit)) (g : Gateway) :
    Launch → Gateway → Prop where
  | waits (duration : Nat) {rest : Run (Except Fault Unit)} :
      hook.atOnce? = none → rest.value = hook.value → rest.steps.length < hook.steps.length →
        Goes service hook g (waiting service duration rest) g
  | fails {fault : Fault} :
      hook.atOnce? = some (.error fault) →
        Goes service hook g (finished (.error (.fault fault))) g
  | late {other : Service} :
      hook.atOnce? = some (.ok ()) → g.service = some other →
        Goes service hook g (finished (.error .alreadyStarted)) g
  | succeeds :
      hook.atOnce? = some (.ok ()) → g.service = none →
        Goes service hook g (finished (.ok service)) ⟨some service⟩

variable {service : Service} {hook : Run (Except Fault Unit)} {g g' : Gateway} {launch : Launch}

/-- A step in front that is no wait makes no difference, but for the length. -/
theorem Goes.cons {s : Step} (hs : s.isWait = false) (h : Goes service hook g launch g') :
    Goes service ⟨s :: hook.steps, hook.value⟩ g launch g' := by
  have hatOnce : (⟨s :: hook.steps, hook.value⟩ : Run (Except Fault Unit)).atOnce? =
      hook.atOnce? := by
    rw [Run.atOnce?, Run.atOnce?, List.any_cons, hs, Bool.false_or]
  cases h with
  | waits duration hwaits hvalue hlength =>
      exact .waits duration (hatOnce.trans hwaits) hvalue (Nat.lt_succ_of_lt hlength)
  | fails hfault => exact .fails (hatOnce.trans hfault)
  | late hok hg => exact .late (hatOnce.trans hok) hg
  | succeeds hok hg => exact .succeeds (hatOnce.trans hok) hg

/-- A gateway is set by the launch that succeeds, and by no other. -/
theorem Goes.gateway (h : Goes service hook g launch g') :
    (g' = g ∧ ∀ s, launch ≠ finished (.ok s)) ∨
      (g.service = none ∧ ∃ s, g' = ⟨some s⟩ ∧ launch = finished (.ok s)) := by
  cases h with
  | waits duration _ _ _ => exact .inl ⟨rfl, by simp⟩
  | fails _ => exact .inl ⟨rfl, by simp⟩
  | late _ _ => exact .inl ⟨rfl, by simp⟩
  | succeeds _ hg => exact .inr ⟨hg, service, rfl, rfl⟩

/-- A launch that comes too late finds the gateway set. -/
theorem Goes.gateway_of_late (h : Goes service hook g launch g')
    (hlate : launch = finished (.error .alreadyStarted)) : ∃ s, g'.service = some s := by
  cases h with
  | waits duration _ _ _ => cases hlate
  | fails _ => cases hlate
  | late _ hg => exact ⟨_, hg⟩
  | succeeds _ _ => cases hlate

/-- The service of a launch stays the same. -/
theorem Goes.eq_service (h : Goes service hook g launch g') {s : Service}
    (hs : launch.service? = some s) : s = service := by
  cases h with
  | waits duration _ _ _ => exact (Option.some.inj hs).symm
  | fails _ => cases hs
  | late _ _ => cases hs
  | succeeds _ _ => exact (Option.some.inj hs).symm

/-- A launch that goes on waits less often from there on. -/
theorem Goes.waits_lt (h : Goes service hook g launch g') : launch.waits < hook.steps.length + 1 := by
  cases h with
  | waits duration _ _ hlength => exact Nat.succ_lt_succ hlength
  | fails _ => exact Nat.succ_pos _
  | late _ _ => exact Nat.succ_pos _
  | succeeds _ _ => exact Nat.succ_pos _

/-- **Running a backend's start comes to one of these**, and the deployment stays as it is. -/
theorem proceed_goes (service : Service) (hook : Run (Except Fault Unit)) (g : Gateway)
    (d : Deployment) :
    let a := (((proceed service hook.value hook.steps).run g).run d).value
    Goes service hook g a.1.1 a.1.2 ∧ a.2 = d := by
  obtain ⟨steps, outcome⟩ := hook
  induction steps with
  | nil =>
      -- the start has come to its end
      cases outcome with
      | error fault => exact ⟨.fails rfl, rfl⟩
      | ok u =>
          obtain ⟨_ | other⟩ := g
          · exact ⟨.succeeds rfl rfl, rfl⟩
          · exact ⟨.late rfl rfl, rfl⟩
  | cons s rest ih =>
      cases s with
      | wait duration => exact ⟨.waits duration rfl rfl (Nat.lt_succ_self _), rfl⟩
      | log e =>
          have hvalue : (((proceed service outcome (.log e :: rest)).run g).run d).value =
              (((proceed service outcome rest).run g).run d).value := by
            simp [proceed]
          simp only [hvalue]
          exact ⟨ih.1.cons rfl, ih.2⟩
      | call p c =>
          have hvalue : (((proceed service outcome (.call p c :: rest)).run g).run d).value =
              (((proceed service outcome rest).run g).run d).value := by
            simp [proceed]
          simp only [hvalue]
          exact ⟨ih.1.cons rfl, ih.2⟩

/-- A launch that is taken to its end succeeds if its backend's start does and the gateway is
not set. -/
theorem value_complete_of_unset {rest : Run (Except Fault Unit)} (hg : g.service = none)
    (hok : rest.value = .ok ()) (service : Service) (duration : Nat) (d : Deployment) :
    (((complete (.waiting service duration rest)).run g).run d).value =
      ((.ok service, ⟨some service⟩), d) := by
  obtain ⟨_ | other⟩ := g
  · show (((finish service rest.value).run {}).run d).value = _
    rw [hok]
    rfl
  · cases hg

end Launch

/-! ## Beginning -/

namespace StartCall

variable (c : StartCall) (d : Deployment)

/-- The service that a call makes. -/
def service : Service :=
  ⟨d.services, c.registry, c.settings.vendor, c.settings.timeout⟩

/-- The instance that its registry prefers for its vendor. -/
def choice? : Option Instance :=
  (d.registry c.registry).select? c.settings.vendor

/-- The deployment in which its service has selected an instance. -/
def choosing (i : Instance) : Deployment :=
  { d with services := d.services + 1 }.withSelection (c.service d) i

/-- The backend's start that it runs when it has selected an instance. -/
def hook (i : Instance) : Run (Except Fault Unit) :=
  ((c.choosing d i).standsFor i.api).start

variable {c d} {i : Instance}

/-- The service of a call has selected what the call has. -/
theorem selected?_choosing (hd : d.Sound) (i : Instance) :
    (c.choosing d i).selected? (c.service d) = some i.api :=
  Deployment.selected?_withSelection (hd.selected?_eq_none (Nat.le_refl d.services)) i

/-- Choosing takes nothing back. -/
theorem persists_choosing (c : StartCall) (d : Deployment) (i : Instance) :
    d.Persists (c.choosing d i) :=
  (Deployment.Persists.moreServices d 1).trans (.withSelection (c.service d) i _)

/-- Making the service and selecting lead to the deployment in which it has chosen. -/
theorem value_select (hd : d.Sound) (h : c.choice? d = some i) :
    ((Deployment.select (c.service d)).run { d with services := d.services + 1 }).value =
      (some i.api, c.choosing d i) := by
  have hnone : ({ d with services := d.services + 1 } : Deployment).selected? (c.service d) =
      none := hd.selected?_eq_none (Nat.le_refl d.services)
  have hchoice : (({ d with services := d.services + 1 } : Deployment).registry
      (c.service d).registry).select? (c.service d).vendor = some i := h
  simp [Deployment.select, hnone, hchoice, choosing, Deployment.withSelection]

/-- With nothing for the vendor the new service selects nothing. -/
theorem run_select_of_nothing (hd : d.Sound) (h : c.choice? d = none) :
    (Deployment.select (c.service d)).run { d with services := d.services + 1 } =
      pure (none, { d with services := d.services + 1 }) := by
  have hnone : ({ d with services := d.services + 1 } : Deployment).selected? (c.service d) =
      none := hd.selected?_eq_none (Nat.le_refl d.services)
  have hchoice : (({ d with services := d.services + 1 } : Deployment).registry
      (c.service d).registry).select? (c.service d).vendor = none := h
  simp [Deployment.select, hnone, hchoice]

/-- The deployment in which it has chosen is one that a program can come to. -/
theorem reachable_choosing (hd : d.Reachable) (h : c.choice? d = some i) :
    (c.choosing d i).Reachable := by
  have hselect := (hd.newService c.registry c.settings).select (s := c.service d)
    (Nat.lt_succ_self d.services)
  have hvalue : ((Deployment.newService c.registry c.settings).run d).value.2 =
      { d with services := d.services + 1 } := rfl
  rwa [hvalue, value_select hd.sound h] at hselect

end StartCall

namespace Launch

open Deployment

variable {c : StartCall} {g : Gateway} {d : Deployment}

/-- What beginning comes to, with the deployment and the gateway before and after. -/
inductive Begins (c : StartCall) (g : Gateway) (d : Deployment) :
    Launch → Gateway → Deployment → Prop where
  /-- The gateway is set. -/
  | refused {other : Service} :
      g.service = some other → Begins c g d (finished (.error .alreadyStarted)) g d
  /-- There is nothing for the vendor. -/
  | unserved :
      g.service = none → c.choice? d = none →
        Begins c g d (finished (.error (.fault (.noPluginAvailable c.settings.vendor)))) g
          { d with services := d.services + 1 }
  /-- The backend's start is run. -/
  | launched {i : Instance} {launch : Launch} {g' : Gateway} :
      g.service = none → c.choice? d = some i →
        Goes (c.service d) (c.hook d i) g launch g' →
          Begins c g d launch g' ((c.choosing d i).asked i.api)

namespace Begins

variable {launch : Launch} {g' : Gateway} {d' : Deployment}

/-- Beginning leads to a deployment that a program can come to. -/
theorem reachable (h : Begins c g d launch g' d') (hd : d.Reachable) : d'.Reachable := by
  cases h with
  | refused _ => exact hd
  | unserved _ _ => exact hd.newService c.registry c.settings
  | @launched i _ _ _ hchoice _ =>
      have hchosen := StartCall.reachable_choosing hd hchoice
      have hselected := mem_of_selected? (StartCall.selected?_choosing (c := c) hd.sound i)
      exact hchosen.managerWithin _ (hchosen.sound.selected _ hselected)

/-- It takes nothing back. -/
theorem persists (h : Begins c g d launch g' d') : d.Persists d' := by
  cases h with
  | refused _ => exact .refl d
  | unserved _ _ => exact .moreServices d 1
  | @launched i _ _ _ _ _ =>
      exact (StartCall.persists_choosing c d i).trans (Keeps.managerWithin _ i.api _).persists

/-- A gateway is set by the launch that succeeds at once, and by no other. -/
theorem gateway (h : Begins c g d launch g' d') :
    (g' = g ∧ ∀ s, launch ≠ finished (.ok s)) ∨
      (g.service = none ∧ ∃ s, g' = ⟨some s⟩ ∧ launch = finished (.ok s)) := by
  cases h with
  | refused _ => exact .inl ⟨rfl, by simp⟩
  | unserved _ _ => exact .inl ⟨rfl, by simp⟩
  | launched _ _ hgoes => exact hgoes.gateway

/-- A launch that comes too late finds the gateway set. -/
theorem gateway_of_late (h : Begins c g d launch g' d')
    (hlate : launch = finished (.error .alreadyStarted)) : ∃ s, g'.service = some s := by
  cases h with
  | refused hg => exact ⟨_, hg⟩
  | unserved _ _ => cases hlate
  | launched _ _ hgoes => exact hgoes.gateway_of_late hlate

/-- Only a launch on a gateway that is not set has a service: the new one, which has selected
the instance that its registry preferred. -/
theorem selected (h : Begins c g d launch g' d') (hd : d.Sound) {s : Service}
    (hs : launch.service? = some s) :
    g.service = none ∧ s = c.service d ∧
      ∃ i, c.choice? d = some i ∧ d'.selected? s = some i.api := by
  cases h with
  | refused _ => cases hs
  | unserved _ _ => cases hs
  | @launched i _ _ hunset hchoice hgoes =>
      obtain rfl := hgoes.eq_service hs
      refine ⟨hunset, rfl, i, hchoice, ?_⟩
      exact (Keeps.managerWithin _ i.api _).selected _ _ (StartCall.selected?_choosing hd i)

end Begins

/-- A launch on a gateway that is set is refused, and nothing happens but for a line in the
log. -/
theorem run_begin_of_service {other : Service} (hg : g.service = some other) (d : Deployment) :
    ((begin c.registry c.settings).run g).run d =
      ⟨[.log (.gatewayStarting c.settings.vendor)],
        ((finished (.error .alreadyStarted), g), d)⟩ := by
  simp [begin, hg]
  rfl

/-- **Beginning comes to one of these.** -/
theorem begin_cases (hd : d.Sound) (c : StartCall) (g : Gateway) :
    let a := (((begin c.registry c.settings).run g).run d).value
    Begins c g d a.1.1 a.1.2 a.2 := by
  cases hg : g.service with
  | some other =>
      rw [run_begin_of_service hg]
      exact .refused hg
  | none =>
      have hnewService : (Deployment.newService c.registry c.settings).run d =
          pure (c.service d, { d with services := d.services + 1 }) := rfl
      cases hchoice : c.choice? d with
      | none =>
          have hvalue : (((begin c.registry c.settings).run g).run d).value =
              ((finished (.error (.fault (.noPluginAvailable c.settings.vendor))), g),
                { d with services := d.services + 1 }) := by
            simp [begin, hg, hnewService, StartCall.run_select_of_nothing hd hchoice]
          simp only [hvalue]
          exact .unserved hg hchoice
      | some i =>
          have hvalue : (((begin c.registry c.settings).run g).run d).value =
              (((proceed (c.service d) (c.hook d i).value (c.hook d i).steps).run g).run
                ((c.choosing d i).asked i.api)).value := by
            simp [begin, hg, hnewService, StartCall.value_select hd hchoice]
            rfl
          simp only [hvalue]
          obtain ⟨hgoes, hdeployment⟩ := proceed_goes (c.service d) (c.hook d i) g
            ((c.choosing d i).asked i.api)
          rw [hdeployment]
          exact .launched hg hchoice hgoes

end Launch

end AccessGate
