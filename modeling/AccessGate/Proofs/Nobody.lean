/-
# Without a subject

Where no subject is given, a static backend says no to every question, so nothing that is
derived from its answers allows anything: not in the mode that allows everybody everything,
not through gateways that pass its answers on, and not through gateways that put a denial in
their place. There is no fault either, but for one: a listing may pass on the fault of the
source that it is to filter, if it comes in time.

* `Deployment.standsFor_of_leads` : what an api stands for that leads to a manager when it is
  asked, whether or not the selections on the way were made before;
* `Deployment.value_decision` : what a decision comes to on such a way;
* `Deployment.value_decision_of_denied` : what the manager denies stays denied;
* `GrantTable.value_filterDags_nobody`, `GrantTable.value_filterMenu_nobody`,
  `GrantTable.value_permittedDags_nobody` : what a table answers without a subject;
* `Deployment.denied_without_subject` : what comes of this through gateways.
-/
import AccessGate.Proofs.Bulk
import AccessGate.Proofs.Wiring

namespace AccessGate

/-! ## The manager at the end of the way -/

namespace Deployment

variable {d : Deployment} {api : Api} {way : List Service} {m : Manager}

/-- **An api stands for the manager that it leads to once it is asked**, behind the gateways
on the way, whether they had selected before or select now. -/
theorem standsFor_of_leads (hd : d.Reachable) (hapi : d.Knows api)
    (h : (d.asked api).Leads api way m) :
    d.standsFor api = m.behindAll (way.map (·.limit)) := by
  have hasked : (d.asked api).Reachable := hd.managerWithin d.services hapi
  have hservices : (d.asked api).services = d.services :=
    (Keeps.managerWithin d.services api d).services
  have hlength : way.length ≤ d.services := hservices ▸ h.length_le hasked.sound
  rcases managerWithin_leads d.services api d with ⟨way', m', hleads, -, hmanager⟩ | ⟨-, hlong⟩
  · obtain ⟨rfl, rfl⟩ := h.unique hleads
    exact hmanager
  · -- the way would be longer than there are services
    exact absurd (hlong way m h) (Nat.not_lt.mpr hlength)

/-- **A decision on such a way** is the manager's, if the strictest limit on the way leaves it
the time it takes, and the denial otherwise. -/
theorem value_decision (hd : d.Reachable) (hapi : d.Knows api)
    (h : (d.asked api).Leads api way m) (q : Decision) :
    ((perform api q.ask).run' d).value =
      if InTime (Decision.strictest (way.map (·.limit))) (q.ask m).elapsed then (q.ask m).value
      else q.denial := by
  rw [value_perform, standsFor_of_leads hd hapi h, (q.ask_behindAll _ m).value, q.ask_behind,
    Decision.value_decided]

/-- What the manager denies is denied, in time or not. -/
theorem value_decision_of_denied (hd : d.Reachable) (hapi : d.Knows api)
    (h : (d.asked api).Leads api way m) {q : Decision} (hq : (q.ask m).value = q.denial) :
    ((perform api q.ask).run' d).value = q.denial := by
  rw [value_decision hd hapi h, hq, ite_self]

end Deployment

/-! ## Tables -/

namespace GrantTable

variable (t : GrantTable)

/-- A batch with a request of nobody is denied. -/
theorem value_batch_nobody {k : RecordKind} {rs : List (Request k)} {r : Request k} (hr : r ∈ rs)
    (hnobody : r.subject = none) : (t.manager.batch rs).value = false := by
  have hdenied : t.permits r.inquiry = false := by
    rw [permits, Request.inquiry, hnobody, allows_none]
  refine (t.value_batch rs).trans (List.all_eq_false.mpr ⟨r, hr, ?_⟩)
  rw [hdenied]
  exact Bool.false_ne_true

/-- Nobody keeps an id. -/
theorem value_filterDags_nobody (ids : DagIds) (methods : List Method) :
    (t.manager.filterDags ids methods none).value = .empty := by
  apply DagIds.eq_empty
  intro id hid
  have hkept := (Derived.mem_filterDags t.backend.check ids methods none id).mp hid
  obtain ⟨-, ⟨w, -, hyes⟩ | ⟨w, -, hyes⟩⟩ := hkept
  · cases hyes
  · cases hyes

/-- Nobody sees a menu entry. -/
theorem value_filterMenu_nobody (items : List MenuItem) :
    (t.manager.filterMenu items none).value = [] := by
  refine (Derived.value_filterMenu t.backend.check none items).trans ?_
  rw [List.map_eq_nil_iff, List.filter_eq_nil_iff]
  rintro item - ⟨⟩

/-- Nobody is listed an id, and the fault of the source is passed on. -/
theorem value_permittedDags_nobody (source : DagSource) (methods : List Method) :
    (t.manager.permittedDags source methods none).value =
      source.value.map fun _ => DagIds.empty := by
  refine (Derived.value_permittedDags t.manager.filterDags source methods none).trans ?_
  simp only [value_filterDags_nobody]

end GrantTable

/-! ## Through gateways -/

namespace Deployment

variable {d : Deployment} {api : Api} {way : List Service} {t : GrantTable}

/-- A listing for nobody is empty, or it is the fault of its source if that comes in time. -/
theorem value_listing_nobody (hd : d.Reachable) (hapi : d.Knows api)
    (h : (d.asked api).Leads api way t.manager) (source : DagSource) (methods : List Method) :
    ((perform api (Decision.permittedDags source methods none).ask).run' d).value =
      if InTime (Decision.strictest (way.map (·.limit))) source.elapsed
      then source.value.map fun _ => DagIds.empty else .ok .empty := by
  rw [value_decision hd hapi h, t.elapsed_ask, ← t.value_permittedDags_nobody source methods]
  rfl

/-- **Without a subject everything is denied.** Let an api lead to a static backend, in
whichever mode, by itself or through gateways with any limits. Where no subject is given,
each question is answered with no, and the DAG filter and the menu filter keep nothing; a
batch that is allowed has a subject in every request; and a listing is empty, or it is the
fault of its source if that came within the strictest limit on the way. There is no other
fault. -/
theorem denied_without_subject (hd : d.Reachable) (hapi : d.Knows api)
    (h : (d.asked api).Leads api way t.manager) :
    let through (q : Decision) := ((perform api q.ask).run' d).value
    (∀ q, through (.check ⟨q, none⟩) = false) ∧
      (∀ {k : RecordKind} (rs : List (Request k)),
        through (.batch rs) = true → ∀ r ∈ rs, r.subject ≠ none) ∧
      (∀ ids methods, through (.filterDags ids methods none) = .empty) ∧
      (∀ items, through (.filterMenu items none) = []) ∧
      (∀ source methods ids, source.value = .ok ids →
        through (.permittedDags source methods none) = .ok .empty) ∧
      (∀ source methods f, source.value = .error f →
        through (.permittedDags source methods none) =
          if InTime (Decision.strictest (way.map (·.limit))) source.elapsed then .error f
          else .ok .empty) ∧
      ∀ source methods f, through (.permittedDags source methods none) = .error f →
        source.value = .error f := by
  intro through
  have hdenied : ∀ q : Decision, (q.ask t.manager).value = q.denial → through q = q.denial :=
    fun q hq => value_decision_of_denied hd hapi h hq
  have hlisting := value_listing_nobody hd hapi h
  refine ⟨?_, ?_, ?_, ?_, ?_, ?_, ?_⟩
  · intro q
    exact hdenied (.check ⟨q, none⟩) rfl
  · intro k rs hbatch r hr hnobody
    have hdenial := hdenied (.batch rs) (t.value_batch_nobody hr hnobody)
    rw [hbatch] at hdenial
    cases hdenial
  · intro ids methods
    exact hdenied (.filterDags ids methods none) (t.value_filterDags_nobody ids methods)
  · intro items
    exact hdenied (.filterMenu items none) (t.value_filterMenu_nobody items)
  · intro source methods ids hids
    refine (hlisting source methods).trans ?_
    rw [hids]
    exact ite_self _
  · intro source methods f hf
    refine (hlisting source methods).trans ?_
    rw [hf]
    rfl
  · intro source methods f hf
    have hfault := (hlisting source methods).symm.trans hf
    cases hsource : source.value with
    | ok ids =>
        rw [hsource] at hfault
        have hempty := (ite_self _).symm.trans hfault
        cases hempty
    | error f' =>
        rw [hsource] at hfault
        split at hfault
        · exact hfault
        · cases hfault

/-- A table that allows everybody everything, behind two gateways that select when they are
asked. Somebody is allowed to read pools and nobody is not; a listing for nobody fails if its
source fails in time, and is empty if the source takes longer. -/
theorem denied_without_subject_slow_source :
    let t : GrantTable := ⟨.allowAll, [], some (.withoutId "admin")⟩
    let inner : Service := ⟨0, 0, "acme", none⟩
    let outer : Service := ⟨1, 0, "front", some 40⟩
    let d : Deployment :=
      { registries := [⟨[⟨"static", "acme", 1, .direct t.manager⟩,
          ⟨"inner", "front", 1, .client inner⟩]⟩]
        services := 2 }
    let pools : Question := .record .pool .get none
    let source (wait : Nat) : DagSource := do
      Run.wait wait
      return .error (.internal "down")
    let through (q : Decision) := ((perform (.client outer) q.ask).run' d).value
    d.Reachable ∧ d.Knows (.client outer) ∧
      (d.asked (.client outer)).Leads (.client outer) [outer, inner] t.manager ∧
      through (.check ⟨pools, some (.withoutId "ada")⟩) = true ∧
      through (.check ⟨pools, none⟩) = false ∧
      through (.permittedDags (source 20) [] none) = .error (.internal "down") ∧
      through (.permittedDags (source 60) [] none) = .ok .empty := by
  intro t inner outer d pools source through
  have hinner : Reachable (_ : Deployment) :=
    (Reachable.start.register 0 (i := ⟨"static", "acme", 1, .direct t.manager⟩) trivial).newService
      0 ⟨"acme", none⟩
  have hd : d.Reachable :=
    (hinner.register 0 (i := ⟨"inner", "front", 1, .client inner⟩) (Nat.lt_succ_self 0)).newService
      0 ⟨"front", some 40⟩
  have hknows : d.Knows (.client outer) := Nat.lt_succ_self 1
  have hway : (d.asked (.client outer)).Leads (.client outer) [outer, inner] t.manager :=
    .client rfl (.client rfl (.direct t.manager))
  obtain ⟨hcheck, -, -, -, -, hlisting, -⟩ := denied_without_subject hd hknows hway
  exact ⟨hd, hknows, hway, rfl, hcheck pools, hlisting (source 20) [] _ rfl,
    hlisting (source 60) [] _ rfl⟩

end Deployment

end AccessGate
