/-
# Forwarding along selections

A gateway client stands for what its service has selected, and that may be the client of
another gateway. Following selections from client to client ends at a manager, and no
service is passed twice on the way: it would lead on as it did before, for ever. So there
are at most as many clients on the way as there are services, which is how far an
operation looks.

* `Deployment.Leads` : the way from an api along selections to a manager;
* `Deployment.Leads.length_le` : it is no longer than there are services;
* `Deployment.run'_perform` : an operation on the api is one on the manager, behind all
  gateways on the way;
* `Deployment.decision_through_client` : what a client makes of a decision of the api that
  it has selected;
* `Deployment.decision_through_chain` : a chain of clients agrees with one client that has
  the strictest limit.
-/
import AccessGate.Manager.Probe
import AccessGate.Proofs.Decision
import AccessGate.Proofs.Deployment

namespace AccessGate.Deployment

/-! ## Ways to a manager -/

/-- The way from an api along selections to a manager, with the services it passes. -/
inductive Leads (d : Deployment) : Api → List Service → Manager → Prop where
  | direct (m : Manager) : Leads d (.direct m) [] m
  | client {s : Service} {api : Api} {way : List Service} {m : Manager} :
      d.selected? s = some api → Leads d api way m → Leads d (.client s) (s :: way) m

namespace Leads

variable {d : Deployment} {api : Api} {way way' : List Service} {m m' : Manager}

/-- There is one way from an api, to one manager. -/
theorem unique (h : d.Leads api way m) (h' : d.Leads api way' m') : way = way' ∧ m = m' := by
  induction h generalizing way' with
  | direct m =>
      cases h'
      exact ⟨rfl, rfl⟩
  | client hselected _ ih =>
      cases h' with
      | client hselected' hnext' =>
          rw [hselected] at hselected'
          cases hselected'
          obtain ⟨rfl, rfl⟩ := ih hnext'
          exact ⟨rfl, rfl⟩

/-- From a service on the way on it is the rest of the way. -/
theorem of_mem (h : d.Leads api way m) {s : Service} (hs : s ∈ way) :
    ∃ rest, d.Leads (.client s) (s :: rest) m ∧ rest.length < way.length := by
  induction h with
  | direct m => cases hs
  | @client s' api way m hselected hnext ih =>
      rcases List.mem_cons.mp hs with rfl | hs
      · exact ⟨way, .client hselected hnext, Nat.lt_succ_self way.length⟩
      · obtain ⟨rest, hrest, hlt⟩ := ih hs
        exact ⟨rest, hrest, Nat.lt_succ_of_lt hlt⟩

/-- **No service is passed twice.** From the same number the way goes on as before, so
the rest of the way would be as long as the way. -/
theorem nodup (h : d.Leads api way m) : (way.map (·.number)).Nodup := by
  induction h with
  | direct m => exact List.nodup_nil
  | @client s api way m hselected hnext ih =>
      rw [List.map_cons, List.nodup_cons]
      refine ⟨?_, ih⟩
      intro hmem
      obtain ⟨s', hs', hnumber⟩ := List.mem_map.mp hmem
      obtain ⟨rest, hrest, hlt⟩ := hnext.of_mem hs'
      cases hrest with
      | client hselected' hnext' =>
          -- the service further on has selected what this one has, so the way repeats itself
          have hsame : d.selected? s' = d.selected? s := by
            rw [selected?, selected?, hnumber]
          rw [hsame, hselected] at hselected'
          cases hselected'
          rw [(hnext.unique hnext').1] at hlt
          omega

/-- The services on a way have selected, so they were made in the deployment. -/
theorem number_lt (h : d.Leads api way m) (hd : d.Sound) : ∀ s ∈ way, s.number < d.services := by
  intro s hs
  obtain ⟨rest, hrest, -⟩ := h.of_mem hs
  cases hrest with
  | client hselected _ => exact hd.selecting _ (mem_of_selected? hselected)

/-- **A way is no longer than there are services.** -/
theorem length_le (h : d.Leads api way m) (hd : d.Sound) : way.length ≤ d.services := by
  have hsub : way.map (·.number) ⊆ List.range d.services := by
    intro n hn
    obtain ⟨s, hs, rfl⟩ := List.mem_map.mp hn
    exact List.mem_range.mpr (h.number_lt hd s hs)
  have hle := h.nodup.length_le_of_subset hsub
  rwa [List.length_map, List.length_range] at hle

end Leads

/-! ## Operations on an api -/

variable {d : Deployment} {api : Api} {way : List Service} {m : Manager}

/-- Following a way gives its manager, behind the gateways on the way. Nothing happens on
the way, as everything on it is selected. -/
theorem run_managerWithin (h : d.Leads api way m) {steps : Nat} (hsteps : way.length ≤ steps) :
    (managerWithin steps api).run d = pure (m.behindAll (way.map (·.limit)), d) := by
  induction h generalizing steps with
  | direct m =>
      cases steps <;> rfl
  | @client s api way m hselected _ ih =>
      cases steps with
      | zero => cases hsteps
      | succ steps =>
          -- a service that has selected does not select again, so the deployment stays as it is
          have hselect : (select s).run d = pure (some api, d) := by
            simp [select, hselected]
          rw [managerWithin, StateT.run_bind, hselect, pure_bind]
          simp only [StateT.run_bind, ih (Nat.le_of_succ_le_succ hsteps), pure_bind]
          rfl

/-- **An operation on an api is one on the manager it leads to**, behind the gateways on
the way. The deployment stays as it is. -/
theorem run_perform_of_leads (hd : d.Reachable) (h : d.Leads api way m) {α : Type}
    (operation : Manager → Run α) :
    (perform api operation).run d =
      (fun a => (a, d)) <$> operation (m.behindAll (way.map (·.limit))) := by
  have hmanager : (manager api).run d = pure (m.behindAll (way.map (·.limit)), d) :=
    run_managerWithin h (h.length_le hd.sound)
  rw [perform, StateT.run_bind, hmanager, pure_bind]
  simp

/-- What it answers, and on the way. -/
theorem run'_perform (hd : d.Reachable) (h : d.Leads api way m) {α : Type}
    (operation : Manager → Run α) :
    (perform api operation).run' d = operation (m.behindAll (way.map (·.limit))) := by
  rw [StateT.run'_eq, run_perform_of_leads hd h]
  simp

/-! ## Decisions -/

/-- **Deny on timeout.** A client answers as the api behind it if that answers within the
limit. Otherwise it denies at the limit, and the calls that were made by then, also at the
limit itself, are all that are made. -/
theorem decision_through_client (hd : d.Reachable) {s : Service}
    (hselected : d.selected? s = some api) (h : d.Leads api way m) (q : Decision) :
    let direct := (perform api q.ask).run' d
    let through := (perform (.client s) q.ask).run' d
    (InTime s.limit direct.elapsed → through = direct) ∧
      (∀ limit, s.limit = some limit → limit < direct.elapsed →
        through.value = q.denial ∧ through.elapsed = limit ∧
          through.calls = (direct.timeline.filter fun c => c.1 ≤ limit).map Prod.snd) := by
  intro direct through
  have hthrough : through = Decision.decided q.operation q.denial s.limit direct := by
    have hclient := run'_perform hd (.client hselected h) q.ask
    rw [List.map_cons] at hclient
    refine hclient.trans ?_
    rw [show direct = q.ask (m.behindAll (way.map (·.limit))) from run'_perform hd h q.ask]
    exact q.ask_behind s.limit _
  refine ⟨?_, ?_⟩
  · intro hin
    rw [hthrough, Decision.decided_of_inTime hin]
  · intro limit hlimit hlt
    have hlate : ¬InTime s.limit direct.elapsed := by
      rw [hlimit, inTime_some]
      omega
    refine ⟨?_, ?_, ?_⟩
    · rw [hthrough, Decision.value_decided, if_neg hlate]
    · rw [hthrough, Decision.elapsed_decided, hlimit]
      exact Nat.min_eq_right (Nat.le_of_lt hlt)
    · rw [Run.calls_eq_map_timeline, hthrough, Decision.timeline_decided, hlimit]
      simp only [inTime_some]

/-- Three checks that wait 10 ms each, with a limit of 15 ms: the second is under way when
the decision is denied, and the third is not made. -/
theorem decision_through_client_late_batch :
    let p : Probe := { number := 0, name := "slow", allowsAll := true, delay := 10 }
    let d : Deployment :=
      { registries := [⟨[⟨"slow", "acme", 1, .direct p.manager⟩]⟩]
        services := 1
        selections := [(0, .direct p.manager)] }
    let s : Service := ⟨0, 0, "acme", some 15⟩
    let request : Request .pool := { method := .get, subject := some (.withoutId "ada") }
    let q : Decision := .batch [request, request, request]
    let through := (perform (.client s) q.ask).run' d
    d.Reachable ∧ d.selected? s = some (.direct p.manager) ∧
      d.Leads (.direct p.manager) [] p.manager ∧
      ((perform (.direct p.manager) q.ask).run' d).elapsed = 30 ∧
      through.value = false ∧ through.elapsed = 15 ∧
      through.calls = [(0, .asked request.inquiry), (0, .asked request.inquiry)] := by
  intro p d s request q through
  have hd : d.Reachable :=
    ((Reachable.start.register 0 (i := ⟨"slow", "acme", 1, .direct p.manager⟩) trivial).newService
      0 ⟨"acme", some 15⟩).select (s := s) (Nat.lt_succ_self 0)
  have hselected : d.selected? s = some (.direct p.manager) := rfl
  have hlead : d.Leads (.direct p.manager) [] p.manager := .direct p.manager
  have hdirect : ((perform (.direct p.manager) q.ask).run' d).elapsed = 30 := by rfl
  obtain ⟨hvalue, helapsed, hcalls⟩ :=
    (decision_through_client hd hselected hlead q).2 15 rfl (by rw [hdirect]; decide)
  exact ⟨hd, hselected, hlead, hdirect, hvalue, helapsed, hcalls⟩

/-- **Gateways behind each other are as strict as the strictest.** A chain of clients
agrees with a single client of the same manager whose limit is the least on the chain. -/
theorem decision_through_chain (hd : d.Reachable) (h : d.Leads api way m) {d' : Deployment}
    (hd' : d'.Reachable) {s : Service} (hselected : d'.selected? s = some (.direct m))
    (hlimit : s.limit = Decision.strictest (way.map (·.limit))) (q : Decision) :
    ((perform api q.ask).run' d).Agrees ((perform (.client s) q.ask).run' d') := by
  rw [run'_perform hd h, run'_perform hd' (.client hselected (.direct m)), List.map_singleton,
    hlimit]
  exact q.ask_behindAll _ m

/-- A listing whose source fails after 20 ms, through a client with a limit of 40 ms and
one of 15 ms behind it: the failure is not seen, nothing is listed, and 15 ms pass. -/
theorem decision_through_chain_late_failure :
    let p : Probe := { number := 0, name := "slow" }
    let inner : Service := ⟨0, 0, "acme", some 15⟩
    let outer : Service := ⟨1, 0, "front", some 40⟩
    let d : Deployment :=
      { registries := [⟨[⟨"slow", "acme", 1, .direct p.manager⟩,
          ⟨"inner", "front", 1, .client inner⟩]⟩]
        services := 2
        selections := [(0, .direct p.manager), (1, .client inner)] }
    let d' : Deployment :=
      { registries := [⟨[⟨"slow", "acme", 1, .direct p.manager⟩]⟩]
        services := 1
        selections := [(0, .direct p.manager)] }
    let source : DagSource := do
      Run.wait 20
      return .error (.internal "down")
    let q : Decision := .permittedDags source [] none
    d.Reachable ∧ d.Leads (.client outer) [outer, inner] p.manager ∧ d'.Reachable ∧
      d'.selected? inner = some (.direct p.manager) ∧
      inner.limit = Decision.strictest [outer.limit, inner.limit] ∧
      ((perform (.client outer) q.ask).run' d).value = .ok .empty ∧
      ((perform (.client outer) q.ask).run' d).elapsed = 15 := by
  intro p inner outer d d' source q
  have hd' : d'.Reachable :=
    ((Reachable.start.register 0 (i := ⟨"slow", "acme", 1, .direct p.manager⟩) trivial).newService
      0 ⟨"acme", some 15⟩).select (s := inner) (Nat.lt_succ_self 0)
  have hd : d.Reachable :=
    ((hd'.register 0 (i := ⟨"inner", "front", 1, .client inner⟩) (Nat.lt_succ_self 0)).newService
      0 ⟨"front", some 40⟩).select (s := outer) (Nat.lt_succ_self 1)
  have hlead : d.Leads (.client outer) [outer, inner] p.manager :=
    .client rfl (.client rfl (.direct p.manager))
  have hlimit : inner.limit = Decision.strictest [outer.limit, inner.limit] := rfl
  have hagrees := decision_through_chain hd hlead hd' rfl hlimit q
  refine ⟨hd, hlead, hd', rfl, hlimit, ?_, ?_⟩
  · rw [hagrees.value]
    rfl
  · rw [hagrees.elapsed]
    rfl

end AccessGate.Deployment
