/-
# Programs with many gateways

A program makes backends and tables, registers them in registries under vendors, starts
gateways on those, and registers the clients of gateways in turn. So a client may lead to
another one, and an operation on it is passed on and on. It comes to an end all the same: a
gateway hands out its client when it has selected, and what it selected was there before, so
selections lead back to a backend or a table.

A `Session` is what such a program has; `Session.next` does one of the things that it can do.
Starts of gateways may fail, and go on in any order while others wait.

* `Deployment.Supplied` : deployments in which whatever is registered or selected is among
  some apis, all of which lead to managers that answer themselves;
* `Launch.Begins.supplied`, `Caller.proceed_supplied` : they stay so when gateways are
  started;
* `Session.Grounded.next` : the invariant of sessions, one step at a time;
* `Session.every_api_leads` : where every api of a session leads.
-/
import AccessGate.Proofs.Identity
import AccessGate.Proofs.Launch

namespace AccessGate

/-! ## Supplied deployments -/

namespace Deployment

variable {d d' : Deployment} {apis : List Api} {api : Api} {way : List Service} {m : Manager}
  {s : Service}

/-- An api that leads to a manager belongs to the deployment. -/
theorem Leads.knows (h : d.Leads api way m) (hd : d.Sound) : d.Knows api := by
  cases h with
  | direct m => trivial
  | client hselected _ => exact hd.selecting _ (mem_of_selected? hselected)

/-- Asking for the name follows the way, too. -/
theorem Leads.nameWithin_eq (h : d.Leads api way m) {steps : Nat} (hsteps : way.length ≤ steps) :
    d.nameWithin steps api = m.name := by
  induction h generalizing steps with
  | direct m => cases steps <;> rfl
  | client hselected _ ih =>
      cases steps with
      | zero => cases hsteps
      | succ steps =>
          rw [nameWithin, hselected]
          exact ih (Nat.le_of_succ_le_succ hsteps)

/-- To ask an api that leads to a manager changes nothing. -/
theorem asked_of_leads (h : d.Leads api way m) (hd : d.Sound) : d.asked api = d := by
  have hrun : (manager api).run d = pure (m.behindAll (way.map (·.limit)), d) :=
    run_managerWithin h (h.length_le hd)
  rw [asked, hrun]
  rfl

/-- Whether whatever is registered or selected in a deployment is among some apis, and each of
these leads to a manager that answers itself. -/
structure Supplied (apis : List Api) (d : Deployment) : Prop where
  reachable : d.Reachable
  registered : ∀ r ∈ d.registries, ∀ i ∈ r.instances, i.api ∈ apis
  selected : ∀ p ∈ d.selections, p.2 ∈ apis
  leads : ∀ api ∈ apis, ∃ way m, d.Leads api way m ∧ m.AnswersItself

/-- Whether a service has selected one of some apis. -/
def Held (apis : List Api) (d : Deployment) (s : Service) : Prop :=
  ∃ api ∈ apis, d.selected? s = some api

/-- It has done so when there are more apis, whatever the program does next. -/
theorem Held.mono {apis' : List Api} (h : Held apis d s) (happ : ∀ api ∈ apis, api ∈ apis')
    (hpersists : d.Persists d') : Held apis' d' s := by
  obtain ⟨api, hapi, hselected⟩ := h
  exact ⟨api, happ api hapi, hpersists.selected s api hselected⟩

namespace Supplied

/-- At first there is nothing. -/
theorem empty : Supplied [] {} := by
  refine ⟨.start, ?_, ?_, ?_⟩ <;> simp [Registry.empty]

/-- One more api that leads to a manager which answers itself. -/
theorem append (h : Supplied apis d) (hleads : d.Leads api way m) (hm : m.AnswersItself) :
    Supplied (apis ++ [api]) d where
  reachable := h.reachable
  registered r hr i hi := List.mem_append_left _ (h.registered r hr i hi)
  selected p hp := List.mem_append_left _ (h.selected p hp)
  leads := by
    intro api' hapi'
    rcases List.mem_append.mp hapi' with hapi' | hapi'
    · exact h.leads api' hapi'
    · rw [List.mem_singleton.mp hapi']
      exact ⟨way, m, hleads, hm⟩

/-- The client of a service that has selected is such an api. -/
theorem append_client (h : Supplied apis d) (hs : Held apis d s) :
    Supplied (apis ++ [.client s]) d := by
  obtain ⟨api, hapi, hselected⟩ := hs
  obtain ⟨way, m, hleads, hm⟩ := h.leads api hapi
  exact h.append (.client hselected hleads) hm

/-- Whatever takes nothing back leaves the ways as they are. -/
theorem of_persists (h : Supplied apis d) (hd' : d'.Reachable) (hpersists : d.Persists d')
    (hregistered : ∀ r ∈ d'.registries, ∀ i ∈ r.instances, i.api ∈ apis)
    (hselected : ∀ p ∈ d'.selections, p.2 ∈ apis) : Supplied apis d' where
  reachable := hd'
  registered := hregistered
  selected := hselected
  leads := by
    intro api hapi
    obtain ⟨way, m, hleads, hm⟩ := h.leads api hapi
    exact ⟨way, m, hleads.persists hpersists, hm⟩

/-- An instance of a registry is for one of the apis. -/
theorem mem_of_instance (h : Supplied apis d) {number : Nat} {i : Instance}
    (hi : i ∈ (d.registry number).instances) : i.api ∈ apis := by
  obtain ⟨r, hr, hi⟩ := exists_registry_of_mem hi
  exact h.registered r hr i hi

/-- A new registry has no instances. -/
theorem newRegistry (h : Supplied apis d) : Supplied apis (newRegistry.run d).value.2 := by
  have hnext : d.Onward (Deployment.newRegistry.run d).value.2 := .newRegistry
  refine h.of_persists (hnext.reachable h.reachable) hnext.persists ?_ h.selected
  intro r hr i hi
  have hvalue : (Deployment.newRegistry.run d).value.2.registries =
      d.registries ++ [Registry.empty] := rfl
  rw [hvalue] at hr
  rcases List.mem_append.mp hr with hr | hr
  · exact h.registered r hr i hi
  · rw [List.mem_singleton.mp hr] at hi
    cases hi

/-- What is registered is one of the apis. -/
theorem register (h : Supplied apis d) (number : Nat) {i : Instance} (hi : i.api ∈ apis) :
    Supplied apis ((register number i).run d).value.2 := by
  obtain ⟨way, m, hleads, -⟩ := h.leads i.api hi
  have hnext : d.Onward ((Deployment.register number i).run d).value.2 :=
    .register number (hleads.knows h.reachable.sound)
  rcases value_register number i d with hsame | hadded
  · rwa [hsame]
  · refine h.of_persists (hnext.reachable h.reachable) hnext.persists ?_ ?_
    · rw [hadded]
      intro r hr j hj
      rcases List.mem_or_eq_of_mem_set hr with hr | rfl
      · exact h.registered r hr j hj
      · rcases List.mem_append.mp hj with hj | hj
        · exact h.mem_of_instance hj
        · rwa [List.mem_singleton.mp hj]
    · rw [hadded]
      exact h.selected

end Supplied

end Deployment

/-! ## Starting gateways on them -/

open Deployment

variable {apis : List Api} {d d' : Deployment}

/-- What a service selects is one of the apis. -/
theorem StartCall.supplied_choosing {c : StartCall} {i : Instance} (h : Supplied apis d)
    (hchoice : c.choice? d = some i) : Supplied apis (c.choosing d i) := by
  refine h.of_persists (reachable_choosing h.reachable hchoice) (persists_choosing c d i)
    h.registered ?_
  intro p hp
  rcases List.mem_append.mp hp with hp | hp
  · exact h.selected p hp
  · rw [List.mem_singleton.mp hp]
    exact h.mem_of_instance (Registry.mem_of_select? hchoice)

/-- **A launch that begins leaves the deployment supplied**, and its service has selected one of
the apis. -/
theorem Launch.Begins.supplied {c : StartCall} {g g' : Gateway} {launch : Launch}
    (hbegins : Launch.Begins c g d launch g' d') (h : Supplied apis d) :
    Supplied apis d' ∧ ∀ s, launch.service? = some s → Held apis d' s := by
  have hsound := h.reachable.sound
  refine ⟨?_, ?_⟩
  · cases hbegins with
    | refused _ => exact h
    | unserved _ _ =>
        exact h.of_persists (h.reachable.newService c.registry c.settings) (.moreServices d 1)
          h.registered h.selected
    | @launched i _ _ _ hchoice _ =>
        -- the api that is selected leads to a manager, so to ask it selects nothing more
        have hchosen := StartCall.supplied_choosing h hchoice
        have hi := h.mem_of_instance (Registry.mem_of_select? hchoice)
        obtain ⟨way, m, hleads, -⟩ := hchosen.leads i.api hi
        rwa [asked_of_leads hleads hchosen.reachable.sound]
  · intro s hs
    obtain ⟨-, -, i, hchoice, hselected⟩ := hbegins.selected hsound hs
    exact ⟨i.api, h.mem_of_instance (Registry.mem_of_select? hchoice), hselected⟩

namespace Caller

/-- The service of a call that has selected its backend and not failed. -/
def service? : Caller → Option Service
  | starting _ service _ _ => some service
  | returned (.ok service) => some service
  | _ => none

/-- So it is where a call stands that stands where its gateway's launch does. -/
theorem ofLaunch_supplied {launch : Launch} (h : Supplied apis d') (hpersists : d.Persists d')
    (hheld : ∀ s, launch.service? = some s → Held apis d' s) (gateway : Gateway)
    (p : ProcessWide) :
    let a := (((ofLaunch gateway launch).run p).run d').value
    Supplied apis a.2 ∧ d.Persists a.2 ∧ ∀ s, a.1.1.service? = some s → Held apis a.2 s := by
  cases launch with
  | waiting service duration rest => exact ⟨h, hpersists, hheld⟩
  | finished result =>
      cases result with
      | error fault => exact ⟨h, hpersists, hheld⟩
      | ok service =>
          obtain ⟨_ | other⟩ := p
          · exact ⟨h, hpersists, hheld⟩
          · refine ⟨h, hpersists, ?_⟩
            intro s hs
            cases hs

/-- **A call of the process-wide start that goes on leaves the deployment supplied**, and its
service has selected one of the apis. -/
theorem proceed_supplied (call : StartCall) {c : Caller} (h : Supplied apis d)
    (hheld : ∀ s, c.service? = some s → Held apis d s) (p : ProcessWide) :
    let a := (((proceed call c).run p).run d).value
    Supplied apis a.2 ∧ d.Persists a.2 ∧ ∀ s, a.1.1.service? = some s → Held apis a.2 s := by
  cases c with
  | queued => exact ⟨h, .refl d, hheld⟩
  | returned result => exact ⟨h, .refl d, hheld⟩
  | admitted =>
      obtain ⟨_ | other⟩ := p
      · -- the launch of the call's own gateway begins
        have hbegins := Launch.begin_cases h.reachable.sound call {}
        obtain ⟨hsupplied, hservice⟩ := hbegins.supplied h
        exact ofLaunch_supplied hsupplied hbegins.persists hservice _ {}
      · exact ⟨h, .refl d, hheld⟩
  | starting gateway service duration rest =>
      obtain ⟨hgoes, hsame⟩ := Launch.proceed_goes service rest gateway d
      have hservice := fun s hs => hheld s (hgoes.eq_service (s := s) hs ▸ rfl)
      exact ofLaunch_supplied (hsame.symm ▸ h) (hsame.symm ▸ .refl d) (hsame.symm ▸ hservice) _ p

end Caller

/-! ## Sessions -/

/-- The client that a launch hands out when it succeeds. -/
def Launch.client? : Launch → Option Api
  | .finished (.ok service) => some (.client service)
  | _ => none

/-- The client that a call of the process-wide start hands out when it succeeds. -/
def Caller.client? : Caller → Option Api
  | .returned (.ok service) => some (.client service)
  | _ => none

/-- What a program has. -/
structure Session where
  deployment : Deployment := {}
  /-- Whatever it can register and ask, in the order in which it came by it. -/
  apis : List Api := []
  gateways : List Gateway := []
  /-- The starts of gateways, each with the number of its gateway. -/
  launches : List (Nat × Launch) := []
  process : ProcessWide := {}
  /-- The call of the process-wide start whose turn it is. -/
  turn : Option (StartCall × Caller) := none

namespace Session

/-- What a program can do. Registries, apis, gateways and launches go by their numbers. -/
inductive Action where
  | backend (b : Backend)
  | static (t : GrantTable) (resolver : Run (Option Subject))
  | newRegistry
  | register (registry : Nat) (id vendor : String) (priority : Int) (api : Nat)
  | newGateway
  /-- Begin to start a gateway. -/
  | begin (gateway : Nat) (call : StartCall)
  /-- Take a launch past the wait it stands at. -/
  | resume (launch : Nat)
  /-- Ask a gateway for its client. -/
  | client (gateway : Nat)
  /-- Begin the process-wide start, if nobody else has the turn. -/
  | enter (call : StartCall)
  /-- Take the call that has the turn to its next wait, or to its end. -/
  | proceed
  /-- Ask for the process-wide manager. -/
  | process
  | ask (api : Nat) (query : Query)

/-- After a launch has come somewhere that concerns a gateway. -/
def launched (s : Session) (launches : List (Nat × Launch)) (gateway : Nat)
    (a : (Launch × Gateway) × Deployment) : Session :=
  { s with
    deployment := a.2
    apis := s.apis ++ a.1.1.client?.toList
    gateways := s.gateways.set gateway a.1.2
    launches := launches }

/-- After a call of the process-wide start has come somewhere. It keeps its turn until it
returns. -/
def proceeded (s : Session) (call : StartCall) (a : (Caller × ProcessWide) × Deployment) :
    Session :=
  { s with
    deployment := a.2
    apis := s.apis ++ a.1.1.client?.toList
    process := a.1.2
    turn := if a.1.1.isActive then some (call, a.1.1) else none }

/-- Do one thing. What is not there is not done. -/
def next (s : Session) : Action → Session
  | .backend b => { s with apis := s.apis ++ [.direct b.manager] }
  | .static t resolver => { s with apis := s.apis ++ [.direct (t.resolvedBy resolver)] }
  | .newRegistry => { s with deployment := (Deployment.newRegistry.run s.deployment).value.2 }
  | .register registry id vendor priority k =>
      match s.apis[k]? with
      | none => s
      | some api =>
          let r := (Deployment.register registry ⟨id, vendor, priority, api⟩).run s.deployment
          { s with deployment := r.value.2 }
  | .newGateway => { s with gateways := s.gateways ++ [{}] }
  | .begin k call =>
      match s.gateways[k]? with
      | none => s
      | some g =>
          let a := (((Launch.begin call.registry call.settings).run g).run s.deployment).value
          s.launched (s.launches ++ [(k, a.1.1)]) k a
  | .resume l =>
      match s.launches[l]? with
      | some (k, .waiting service duration rest) =>
          match s.gateways[k]? with
          | none => s
          | some g =>
              let a := (((Launch.resume (.waiting service duration rest)).run g).run
                s.deployment).value
              s.launched (s.launches.set l (k, a.1.1)) k a
      | _ => s
  | .client k => { s with apis := s.apis ++ (s.gateways[k]?.bind Gateway.client?).toList }
  | .enter call => if s.turn.isSome then s else { s with turn := some (call, .admitted) }
  | .proceed =>
      match s.turn with
      | none => s
      | some (call, caller) =>
          s.proceeded call (((caller.proceed call).run s.process).run s.deployment).value
  | .process => { s with apis := s.apis ++ s.process.api?.toOption.toList }
  | .ask k query =>
      match s.apis[k]? with
      | none => s
      | some api =>
          { s with deployment := ((Deployment.perform api query.ask).run s.deployment).value.2 }

/-- What a program has when it has done some things, one after another. -/
def after (actions : List Action) : Session :=
  actions.foldl next {}

/-! ### The invariant -/

/-- The services of the gateways that are set, with the one of the process. -/
def owners (s : Session) : List Service :=
  s.gateways.filterMap (·.service) ++ s.process.client.toList

/-- How many gateways there are, with the one that the process has set. -/
def gatewayCount (s : Session) : Nat :=
  s.gateways.length + s.process.client.toList.length

/-- A session is grounded if its deployment is supplied with its apis, the clients among them are
those of gateways that are set, and all services that it holds have selected: those of its
gateways, of its launches and of the call that has the turn. -/
structure Grounded (s : Session) : Prop where
  supplied : Supplied s.apis s.deployment
  owned : ∀ service, Api.client service ∈ s.apis → service ∈ s.owners
  ownersHeld : ∀ service ∈ s.owners, Held s.apis s.deployment service
  launchesHeld : ∀ l ∈ s.launches, ∀ service, l.2.service? = some service →
    Held s.apis s.deployment service
  turnHeld : ∀ t, s.turn = some t → t.2.isActive = true ∧
    ∀ service, t.2.service? = some service → Held s.apis s.deployment service

variable {s : Session} {service : Service}

theorem mem_owners :
    service ∈ s.owners ↔
      (∃ g ∈ s.gateways, g.service = some service) ∨ s.process.client = some service := by
  simp [owners]

namespace Grounded

/-- At first there is nothing. -/
theorem empty : ({} : Session).Grounded := by
  refine ⟨.empty, ?_, ?_, ?_, ?_⟩ <;> simp [owners]

/-- The deployment goes on. -/
theorem withDeployment {d : Deployment} (h : s.Grounded) (hd : Supplied s.apis d)
    (hpersists : s.deployment.Persists d) : { s with deployment := d }.Grounded where
  supplied := hd
  owned := h.owned
  ownersHeld service hs := (h.ownersHeld service hs).mono (fun _ hapi => hapi) hpersists
  launchesHeld l hl service hs :=
    (h.launchesHeld l hl service hs).mono (fun _ hapi => hapi) hpersists
  turnHeld t ht := ⟨(h.turnHeld t ht).1, fun service hs =>
    ((h.turnHeld t ht).2 service hs).mono (fun _ hapi => hapi) hpersists⟩

/-- One more api. -/
theorem withApi {api : Api} (h : s.Grounded)
    (hapi : Supplied (s.apis ++ [api]) s.deployment)
    (howned : ∀ service, api = .client service → service ∈ s.owners) :
    { s with apis := s.apis ++ [api] }.Grounded where
  supplied := hapi
  owned := by
    intro service hs
    rcases List.mem_append.mp hs with hs | hs
    · exact h.owned service hs
    · exact howned service (List.mem_singleton.mp hs).symm
  ownersHeld service hs :=
    (h.ownersHeld service hs).mono (fun _ => List.mem_append_left _) (.refl _)
  launchesHeld l hl service hs :=
    (h.launchesHeld l hl service hs).mono (fun _ => List.mem_append_left _) (.refl _)
  turnHeld t ht := ⟨(h.turnHeld t ht).1, fun service hs =>
    ((h.turnHeld t ht).2 service hs).mono (fun _ => List.mem_append_left _) (.refl _)⟩

/-- The client of a gateway that is set, or of the process. -/
theorem withClient (h : s.Grounded) (hs : service ∈ s.owners) :
    { s with apis := s.apis ++ [Api.client service] }.Grounded := by
  refine h.withApi (h.supplied.append_client (h.ownersHeld service hs)) ?_
  rintro service' ⟨⟩
  exact hs

/-- Launches come and go on. -/
theorem withLaunches (h : s.Grounded) {launches : List (Nat × Launch)}
    (hlaunches : ∀ l ∈ launches, ∀ service, l.2.service? = some service →
      Held s.apis s.deployment service) : { s with launches := launches }.Grounded :=
  ⟨h.supplied, h.owned, h.ownersHeld, hlaunches, h.turnHeld⟩

/-- The turn goes on. -/
theorem withTurn (h : s.Grounded) (turn : Option (StartCall × Caller))
    (hturn : ∀ t, turn = some t → t.2.isActive = true ∧
      ∀ service, t.2.service? = some service → Held s.apis s.deployment service) :
    { s with turn := turn }.Grounded :=
  ⟨h.supplied, h.owned, h.ownersHeld, h.launchesHeld, hturn⟩

/-- A gateway is set that was not set. -/
theorem withGateway (h : s.Grounded) {k : Nat} {g : Gateway} (hk : s.gateways[k]? = some g)
    (hunset : g.service = none) (hs : Held s.apis s.deployment service) :
    { s with gateways := s.gateways.set k ⟨some service⟩ }.Grounded where
  supplied := h.supplied
  owned := by
    intro service' hservice'
    rw [mem_owners]
    rcases mem_owners.mp (h.owned service' hservice') with ⟨g', hg', hset⟩ | hprocess
    · -- a gateway that is set is another one
      obtain ⟨j, hj⟩ := List.mem_iff_getElem?.mp hg'
      have hjk : k ≠ j := by
        rintro rfl
        rw [hk] at hj
        cases hj
        rw [hunset] at hset
        cases hset
      refine .inl ⟨g', List.mem_iff_getElem?.mpr ⟨j, ?_⟩, hset⟩
      rwa [List.getElem?_set_ne hjk]
    · exact .inr hprocess
  ownersHeld := by
    intro service' hservice'
    rcases mem_owners.mp hservice' with ⟨g', hg', hset⟩ | hprocess
    · rcases List.mem_or_eq_of_mem_set hg' with hg' | rfl
      · exact h.ownersHeld service' (mem_owners.mpr (.inl ⟨g', hg', hset⟩))
      · cases hset
        exact hs
    · exact h.ownersHeld service' (mem_owners.mpr (.inr hprocess))
  launchesHeld := h.launchesHeld
  turnHeld := h.turnHeld

/-- The process-wide manager is set that was not set. -/
theorem withProcess (h : s.Grounded) (hunset : s.process.client = none)
    (hs : Held s.apis s.deployment service) :
    { s with process := ⟨some service⟩ }.Grounded where
  supplied := h.supplied
  owned := by
    intro service' hservice'
    rcases mem_owners.mp (h.owned service' hservice') with hgateway | hprocess
    · exact mem_owners.mpr (.inl hgateway)
    · rw [hunset] at hprocess
      cases hprocess
  ownersHeld := by
    intro service' hservice'
    rcases mem_owners.mp hservice' with hgateway | hprocess
    · exact h.ownersHeld service' (mem_owners.mpr (.inl hgateway))
    · cases hprocess
      exact hs
  launchesHeld := h.launchesHeld
  turnHeld := h.turnHeld

/-- A launch comes somewhere: to a wait, to a failure, or to success, which sets its gateway. -/
theorem launched (h : s.Grounded) {k : Nat} {g : Gateway} (hk : s.gateways[k]? = some g)
    {a : (Launch × Gateway) × Deployment} {launches : List (Nat × Launch)}
    (hd : Supplied s.apis a.2) (hpersists : s.deployment.Persists a.2)
    (hheld : ∀ service, a.1.1.service? = some service → Held s.apis a.2 service)
    (hgateway : (a.1.2 = g ∧ ∀ service, a.1.1 ≠ .finished (.ok service)) ∨
      (g.service = none ∧ ∃ service, a.1.2 = ⟨some service⟩ ∧ a.1.1 = .finished (.ok service)))
    (hlaunches : ∀ l ∈ launches, l ∈ s.launches ∨ l.2 = a.1.1) :
    (s.launched launches k a).Grounded := by
  have hgoes : { s with deployment := a.2, launches := launches }.Grounded := by
    refine (h.withDeployment hd hpersists).withLaunches ?_
    intro l hl service hs
    rcases hlaunches l hl with hl | hl
    · exact (h.launchesHeld l hl service hs).mono (fun _ hapi => hapi) hpersists
    · exact hheld service (hl ▸ hs)
  obtain ⟨⟨launch, g'⟩, d⟩ := a
  obtain ⟨hlength, hg⟩ := List.getElem?_eq_some_iff.mp hk
  rcases hgateway with ⟨rfl, hnot⟩ | ⟨hunset, service, rfl, rfl⟩
  · have hset : s.gateways.set k g' = s.gateways := by
      have hg' : s.gateways[k] = g' := hg
      rw [← hg']
      exact List.set_getElem_self hlength
    have hclient : launch.client? = none := by
      cases launch with
      | waiting service duration rest => rfl
      | finished result =>
          cases result with
          | error fault => rfl
          | ok service => exact absurd rfl (hnot service)
    simp only [Session.launched, hset, hclient, Option.toList_none, List.append_nil]
    exact hgoes
  · have hservice : Held s.apis d service := hheld service rfl
    have hmem : (⟨some service⟩ : Gateway) ∈ s.gateways.set k ⟨some service⟩ :=
      List.mem_set hlength _
    exact (hgoes.withGateway hk hunset hservice).withClient (mem_owners.mpr (.inl ⟨_, hmem, rfl⟩))

/-- A call of the process-wide start comes somewhere: to a wait, to a failure, or to success,
which sets the manager. -/
theorem proceeded (h : s.Grounded) (call : StartCall)
    {a : (Caller × ProcessWide) × Deployment}
    (hd : Supplied s.apis a.2) (hpersists : s.deployment.Persists a.2)
    (hheld : ∀ service, a.1.1.service? = some service → Held s.apis a.2 service)
    (hgoes : Caller.Goes s.process a.1.1 a.1.2) : (s.proceeded call a).Grounded := by
  obtain ⟨⟨caller, process⟩, d⟩ := a
  have hdeployment : { s with deployment := d }.Grounded := h.withDeployment hd hpersists
  cases hgoes with
  | waits gateway service duration rest =>
      -- the call keeps its turn, and its service stays held
      have hturn := hdeployment.withTurn (some (call, .starting gateway service duration rest)) (by
        rintro t ⟨⟩
        exact ⟨rfl, hheld⟩)
      simpa [Session.proceeded, Caller.client?, Caller.isActive] using hturn
  | fails fault =>
      have hturn := hdeployment.withTurn none (by rintro t ⟨⟩)
      simpa [Session.proceeded, Caller.client?, Caller.isActive] using hturn
  | succeeds service hunset =>
      have hservice : Held s.apis d service := hheld service rfl
      have hturn := hdeployment.withTurn none (by rintro t ⟨⟩)
      have hset := hturn.withProcess hunset hservice
      exact hset.withClient (mem_owners.mpr (.inr rfl))

/-- **Whatever a program does next, its session stays grounded.** -/
theorem next (h : s.Grounded) (action : Action) : (s.next action).Grounded := by
  cases action with
  | backend b =>
      exact h.withApi (h.supplied.append (.direct b.manager) (.derived b)) (by rintro _ ⟨⟩)
  | static t resolver =>
      exact h.withApi (h.supplied.append (.direct _) (.static t resolver)) (by rintro _ ⟨⟩)
  | newRegistry =>
      have hnext : s.deployment.Onward (Deployment.newRegistry.run s.deployment).value.2 :=
        .newRegistry
      exact h.withDeployment h.supplied.newRegistry hnext.persists
  | register registry id vendor priority k =>
      rw [Session.next]
      split
      · exact h
      · rename_i api hapi
        have hregistered := h.supplied.register registry
          (i := ⟨id, vendor, priority, api⟩) (List.mem_of_getElem? hapi)
        exact h.withDeployment hregistered (Keeps.register registry _ s.deployment).persists
  | newGateway =>
      have howners : Session.owners { s with gateways := s.gateways ++ [{}] } = s.owners := by
        simp [owners]
      refine ⟨h.supplied, ?_, ?_, h.launchesHeld, h.turnHeld⟩
      · intro service hs
        exact howners ▸ h.owned service hs
      · intro service hs
        exact h.ownersHeld service (howners ▸ hs)
  | begin k call =>
      rw [Session.next]
      split
      · exact h
      · rename_i g hg
        have hbegins := Launch.begin_cases h.supplied.reachable.sound call g
        obtain ⟨hd, hheld⟩ := hbegins.supplied h.supplied
        refine h.launched hg hd hbegins.persists hheld hbegins.gateway ?_
        intro l hl
        rcases List.mem_append.mp hl with hl | hl
        · exact .inl hl
        · exact .inr (List.mem_singleton.mp hl ▸ rfl)
  | resume l =>
      rw [Session.next]
      split
      · rename_i k service duration rest hl
        split
        · exact h
        · rename_i g hg
          obtain ⟨hgoes, hsame⟩ := Launch.proceed_goes service rest g s.deployment
          have hservice : Held s.apis s.deployment service :=
            h.launchesHeld _ (List.mem_of_getElem? hl) service rfl
          refine h.launched hg (hsame.symm ▸ h.supplied) (hsame.symm ▸ .refl _) ?_
            hgoes.gateway ?_
          · intro service' hs
            rw [hgoes.eq_service hs]
            exact hsame.symm ▸ hservice
          · intro l' hl'
            rcases List.mem_or_eq_of_mem_set hl' with hl' | rfl
            · exact .inl hl'
            · exact .inr rfl
      · exact h
  | client k =>
      rw [Session.next]
      cases hclient : s.gateways[k]?.bind Gateway.client? with
      | none => simpa using h
      | some api =>
          obtain ⟨g, hg, hapi⟩ := Option.bind_eq_some_iff.mp hclient
          obtain ⟨service, hset, rfl⟩ := Option.map_eq_some_iff.mp hapi
          exact h.withClient (mem_owners.mpr (.inl ⟨g, List.mem_of_getElem? hg, hset⟩))
  | enter call =>
      rw [Session.next]
      split
      · exact h
      · refine h.withTurn _ ?_
        rintro t ⟨⟩
        exact ⟨rfl, by rintro _ ⟨⟩⟩
  | proceed =>
      rw [Session.next]
      split
      · exact h
      · rename_i call caller hturn
        obtain ⟨hactive, hheld⟩ := h.turnHeld _ hturn
        obtain ⟨hd, hpersists, hheld'⟩ :=
          Caller.proceed_supplied call h.supplied hheld s.process
        exact h.proceeded call hd hpersists hheld'
          (Caller.proceed_goes call hactive s.process s.deployment)
  | process =>
      rw [Session.next, ProcessWide.api?]
      cases hset : s.process.client with
      | none => simpa [Except.toOption] using h
      | some service => exact h.withClient (mem_owners.mpr (.inr hset))
  | ask k query =>
      rw [Session.next]
      split
      · exact h
      · rename_i api hapi
        -- everything on the way is selected, so nothing is selected now
        obtain ⟨way, m, hleads, -⟩ := h.supplied.leads api (List.mem_of_getElem? hapi)
        have hsame : ((perform api query.ask).run s.deployment).value.2 = s.deployment := by
          rw [run_perform_of_leads h.supplied.reachable hleads]
          rfl
        rw [hsame]
        exact h

end Grounded

/-- **Every session is grounded.** -/
theorem grounded_after (actions : List Action) : (after actions).Grounded := by
  have hrun : ∀ s : Session, s.Grounded → (actions.foldl next s).Grounded := by
    induction actions with
    | nil => exact fun s hs => hs
    | cons action rest ih => exact fun s hs => ih (s.next action) (hs.next action)
  exact hrun {} .empty

/-! ### Where the apis lead -/

variable {api : Api} {way : List Service} {m : Manager}

/-- The services on the way from an api are those of gateways that are set. -/
theorem Grounded.mem_owners_of_leads (h : s.Grounded) (hapi : api ∈ s.apis)
    (hleads : s.deployment.Leads api way m) : ∀ service ∈ way, service ∈ s.owners := by
  induction hleads with
  | direct m => exact fun service hs => by cases hs
  | client hselected _ ih =>
      intro service hs
      rcases List.mem_cons.mp hs with rfl | hs
      · exact h.owned service hapi
      · exact ih (h.supplied.selected _ (mem_of_selected? hselected)) service hs

/-- **The way from an api is no longer than there are gateways**, as no service is passed
twice. -/
theorem Grounded.length_le (h : s.Grounded) (hapi : api ∈ s.apis)
    (hleads : s.deployment.Leads api way m) : way.length ≤ s.gatewayCount := by
  have hsub : way.map (·.number) ⊆ s.owners.map (·.number) :=
    List.map_subset _ (h.mem_owners_of_leads hapi hleads)
  have hway := hleads.nodup.length_le_of_subset hsub
  have hset : (s.gateways.filterMap (·.service)).length ≤ s.gateways.length :=
    List.length_filterMap_le _ _
  rw [List.length_map, List.length_map, owners, List.length_append] at hway
  rw [gatewayCount]
  omega

/-- **In every session every api leads to a manager that answers itself**, whatever the program
has done and whatever of it has failed: to a backend with the derived operations or to a
table. All services on the way are those of gateways that are set, and the way is no longer
than there are gateways. However many steps are allowed beyond that, following the selections
ends there, and so does asking for the name; so every operation on the api comes to its end as
one on that manager, behind the gateways on the way. -/
theorem every_api_leads (actions : List Action) :
    let s := after actions
    ∀ api ∈ s.apis, ∃ way m, s.deployment.Leads api way m ∧ m.AnswersItself ∧
      (∀ service ∈ way, service ∈ s.owners) ∧ way.length ≤ s.gatewayCount ∧
      (∀ steps, way.length ≤ steps →
        (managerWithin steps api).run s.deployment =
            pure (m.behindAll (way.map (·.limit)), s.deployment) ∧
          s.deployment.nameWithin steps api = m.name) ∧
      ∀ {α : Type} (operation : Manager → Run α), (perform api operation).run s.deployment =
        (fun a => (a, s.deployment)) <$> operation (m.behindAll (way.map (·.limit))) := by
  intro s api hapi
  have hs : s.Grounded := grounded_after actions
  obtain ⟨way, m, hleads, hm⟩ := hs.supplied.leads api hapi
  refine ⟨way, m, hleads, hm, hs.mem_owners_of_leads hapi hleads, hs.length_le hapi hleads,
    ?_, ?_⟩
  · intro steps hsteps
    exact ⟨run_managerWithin hleads hsteps, hleads.nameWithin_eq hsteps⟩
  · intro α operation
    exact run_perform_of_leads hs.supplied.reachable hleads operation

/-- A probe that does not start at once. -/
def lateProbe : Probe :=
  { number := 0, name := "probe", startDelay := 5 }

/-- A gateway is started on the probe, and the process-wide manager on the gateway's client. -/
def startsOnClient : List Action :=
  [.backend lateProbe.backend, .register 0 "p" "acme" 1 0, .newGateway,
    .begin 0 ⟨0, "acme", none⟩, .resume 0, .register 0 "g" "front" 1 1,
    .enter ⟨0, "front", some 20⟩, .proceed, .proceed]

/-- So one client leads over another one, and what is asked of it is asked of the probe, behind
both gateways. -/
theorem every_api_leads_over_client :
    let s := after startsOnClient
    let inner : Service := ⟨0, 0, "acme", none⟩
    let outer : Service := ⟨1, 0, "front", some 20⟩
    s.gatewayCount = 2 ∧ Api.client outer ∈ s.apis ∧
      s.deployment.Leads (.client outer) [outer, inner] lateProbe.backend.manager ∧
      s.deployment.nameWithin 2 (.client outer) = "probe" ∧
      ∀ {α : Type} (operation : Manager → Run α),
        (perform (.client outer) operation).run s.deployment =
          (fun a => (a, s.deployment)) <$>
            operation (lateProbe.backend.manager.behindAll [some 20, none]) := by
  intro s inner outer
  have hcount : s.gatewayCount = 2 := rfl
  have hlast : s.apis[2]? = some (.client outer) := rfl
  have hmem : Api.client outer ∈ s.apis := List.mem_of_getElem? hlast
  have hway : s.deployment.Leads (.client outer) [outer, inner] lateProbe.backend.manager :=
    .client rfl (.client rfl (.direct lateProbe.backend.manager))
  obtain ⟨way, m, hleads, -, -, -, hends, hperform⟩ :=
    every_api_leads startsOnClient (.client outer) hmem
  -- there is no other way from the client
  obtain ⟨rfl, rfl⟩ := hleads.unique hway
  exact ⟨hcount, hmem, hway, (hends 2 (Nat.le_refl 2)).2, hperform⟩

end Session

end AccessGate
