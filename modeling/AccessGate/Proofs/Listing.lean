/-
# Listings through gateways

A listing of the permitted DAG ids can fail in three ways, and a client keeps them apart. A
fault of the source that comes in time is passed on as it is. If source and filter together
pass the limit then nothing is listed, which is the denial, and whether the source would have
failed is not found out. And without a backend the listing fails for that reason, at once and
whatever the source is.

* `Manager.InheritsListing` : a backend that lists the way everything is derived;
* `Deployment.standsFor_of_select`, `Deployment.run'_perform_of_select_eq_none` : what a
  client comes to that selects a manager or nothing;
* `Deployment.listing_through_client` : the three ways.
-/
import AccessGate.Proofs.Bulk

namespace AccessGate

/-! ## Listings of backends -/

/-- Whether a manager lists permitted DAG ids in the derived way, with whatever filter it has. -/
def Manager.InheritsListing (m : Manager) : Prop :=
  m.permittedDags = Derived.permittedDags m.filterDags

/-- Backends with the derived operations do, and so does the static one. -/
theorem Manager.IsBackend.inheritsListing {m : Manager} (h : m.IsBackend) : m.InheritsListing := by
  cases h <;> rfl

namespace Deployment

variable {d : Deployment} {s : Service}

/-! ## What a client comes to -/

/-- A client whose service selects a manager stands for this manager behind its gateway. -/
theorem standsFor_of_select (hs : s.number < d.services) {m : Manager}
    (h : ((select s).run d).value.1 = some (.direct m)) :
    d.standsFor (.client s) = m.behind s.limit := by
  obtain ⟨n, hn⟩ := Nat.exists_eq_add_of_lt hs
  show ((managerWithin d.services (.client s)).run d).value.1 = _
  rw [hn, managerWithin]
  simp only [StateT.run_bind, Run.value_bind]
  cases hv : ((select s).run d).value with
  | mk selected d' =>
      rw [hv] at h
      cases h
      cases s.number + n <;> rfl

/-- A client whose service selects nothing does what a manager does that is not there. -/
theorem run'_perform_of_select_eq_none (hs : s.number < d.services)
    (h : ((select s).run d).value.1 = none) {α : Type} (operation : Manager → Run α) :
    (perform (.client s) operation).run' d = operation (.unavailable s.vendor) := by
  obtain ⟨hselected, hr⟩ := select_eq_none h
  rw [StateT.run'_eq, run_perform_of_nothing operation hs hselected hr]
  simp

/-- A listing of a manager that a client selects is this manager's with the limit. -/
theorem value_listing_of_select (hs : s.number < d.services) {m : Manager}
    (h : ((select s).run d).value.1 = some (.direct m)) (hm : m.InheritsListing)
    (source : DagSource) (methods : List Method) (caller : Option Subject) :
    ((perform (.client s) (Decision.permittedDags source methods caller).ask).run' d).value =
      if InTime s.limit (Derived.permittedDags m.filterDags source methods caller).elapsed then
        source.value.map fun ids => (m.filterDags ids methods caller).value
      else .ok .empty := by
  have hask : (Decision.permittedDags source methods caller).ask m =
      Derived.permittedDags m.filterDags source methods caller := by
    rw [← hm]
    rfl
  rw [value_perform, standsFor_of_select hs h, Decision.ask_behind, Decision.value_decided, hask,
    Derived.value_permittedDags]
  rfl

/-! ## Three ways to fail -/

/-- **A listing fails, is denied, or has no backend.** Through a client that has or finds a
backend with the derived listing: a fault of the source is passed on if it comes in time, and
otherwise nothing is listed. If the source lists ids then the answer is what the filter makes
of them, if source and filter together keep within the limit, and otherwise again nothing; with
the derived filter, what is listed is among these ids. Without a backend the listing fails for
this reason. Then nothing is waited for and nobody is called, neither by the source nor for the
filter. -/
theorem listing_through_client (hs : d.Knows (.client s)) (source : DagSource)
    (methods : List Method) (caller : Option Subject) :
    let listing := (perform (.client s) (Decision.permittedDags source methods caller).ask).run' d
    (∀ m, ((select s).run d).value.1 = some (.direct m) → m.InheritsListing →
        (∀ fault, source.value = .error fault →
          listing.value = if InTime s.limit source.elapsed then .error fault else .ok .empty) ∧
        (∀ ids, source.value = .ok ids →
          let filtered := m.filterDags ids methods caller
          (listing.value =
              if InTime s.limit (source.elapsed + filtered.elapsed) then .ok filtered.value
              else .ok .empty) ∧
            (m.filterDags = Derived.filterDags m.check →
              ∀ id ∈ filtered.value.toList, id ∈ ids.toList))) ∧
      (((select s).run d).value.1 = none →
        listing = ⟨[.log (.callFailed .permittedDags)], .error (.noPluginAvailable s.vendor)⟩) := by
  intro listing
  refine ⟨?_, ?_⟩
  · intro m hselect hm
    have hvalue := value_listing_of_select hs hselect hm source methods caller
    rw [Derived.elapsed_permittedDags] at hvalue
    refine ⟨?_, ?_⟩
    · intro fault hfault
      rw [hfault] at hvalue
      exact hvalue
    · intro ids hids filtered
      rw [hids] at hvalue
      refine ⟨hvalue, ?_⟩
      intro hfilter id hid
      have hkept : id ∈ (Derived.filterDags m.check ids methods caller).value.toList := by
        rw [← hfilter]
        exact hid
      exact ((Derived.mem_filterDags m.check ids methods caller id).mp hkept).1
  · intro hnothing
    exact run'_perform_of_select_eq_none hs hnothing _

/-- A source that answers after 5 ms or 6 ms, and a backend that takes 10 ms for the question
about all DAGs, through a client with a limit of 15 ms: the ids come just in time, or not at
all. A fault after 15 ms is passed on, and one after 16 ms is not seen. The client of another
vendor has no backend. -/
theorem listing_through_client_just_in_time :
    let p : Probe := { number := 0, name := "slow", allowsAll := true, delay := 10 }
    let s : Service := ⟨0, 0, "acme", some 15⟩
    let other : Service := ⟨1, 0, "front", some 15⟩
    let d : Deployment :=
      { registries := [⟨[⟨"slow", "acme", 1, .direct p.manager⟩]⟩]
        services := 2 }
    let source (delay : Nat) (answer : Except Fault DagIds) : DagSource := do
      Run.wait delay
      return answer
    let caller : Option Subject := some (.withoutId "ada")
    let listing (s : Service) (source : DagSource) :=
      ((perform (.client s) (Decision.permittedDags source [] caller).ask).run' d).value
    let ids : DagIds := .ofList ["report", "import"]
    d.Knows (.client s) ∧ ((select s).run d).value.1 = some (.direct p.manager) ∧
      p.manager.InheritsListing ∧
      listing s (source 5 (.ok ids)) = .ok ids ∧
      listing s (source 6 (.ok ids)) = .ok .empty ∧
      listing s (source 15 (.error (.internal "down"))) = .error (.internal "down") ∧
      listing s (source 16 (.error (.internal "down"))) = .ok .empty ∧
      listing other (source 5 (.ok ids)) = .error (.noPluginAvailable "front") := by
  intro p s other d source caller listing ids
  have hs : d.Knows (.client s) := Nat.zero_lt_succ 1
  have hother : d.Knows (.client other) := Nat.lt_succ_self 1
  have hselect : ((select s).run d).value.1 = some (.direct p.manager) := rfl
  have hinherits : p.manager.InheritsListing :=
    (Manager.IsBackend.derived p.backend).inheritsListing
  have hlisted (delay : Nat) :=
    ((listing_through_client hs (source delay (.ok ids)) [] caller).1 p.manager hselect
      hinherits).2 ids rfl
  have hfailed (delay : Nat) :=
    ((listing_through_client hs (source delay (.error (.internal "down"))) [] caller).1
      p.manager hselect hinherits).1 (.internal "down") rfl
  refine ⟨hs, hselect, hinherits, (hlisted 5).1, (hlisted 6).1, hfailed 15, hfailed 16, ?_⟩
  have hnothing := (listing_through_client hother (source 5 (.ok ids)) [] caller).2 rfl
  exact congrArg Run.value hnothing

end Deployment

end AccessGate
