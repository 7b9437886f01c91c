/-
# Bulk answers through gateways

A gateway's limit is for an operation as a whole, so a batch may be denied through a client
whose requests are all allowed one by one. The other way round is safe: what a bulk
operation allows is allowed alone, through the same client, in its place or at any time
after it. It makes no difference whether the client has a backend when it is asked, finds
one then or finds none, nor how many gateways are in between.

* `Deployment.standsFor`, `Deployment.asked` : the manager an api stands for when it is
  asked, and the deployment afterwards;
* `Deployment.leads_or_grantsNothing` : it is the manager at the end of the way, now and
  later, or it grants nothing;
* `Deployment.AllowsAlone` : a single question, whenever it is asked;
* `Deployment.bulk_through_client` : bulk answers are never more permissive than single ones.
-/
import AccessGate.Proofs.DagFilter
import AccessGate.Proofs.Forwarding
import AccessGate.Proofs.Grounds
import AccessGate.Proofs.Selection

namespace AccessGate.Deployment

variable {d d' : Deployment} {s : Service} {api : Api} {way : List Service} {m : Manager}

/-! ## Ways that stay -/

/-- A way stays if no selection on it is taken back. -/
theorem Leads.persists (h : d.Leads api way m) (hpersists : d.Persists d') :
    d'.Leads api way m := by
  induction h with
  | direct m => exact .direct m
  | client hselected _ ih => exact .client (hpersists.selected _ _ hselected) ih

theorem Leads.keeps (h : d.Leads api way m) (hkeeps : d.Keeps d') : d'.Leads api way m :=
  h.persists hkeeps.persists

/-- What a service selects it has selected afterwards. -/
theorem selected?_select (h : ((select s).run d).value.1 = some api) :
    ((select s).run d).value.2.selected? s = some api := by
  cases hselected : d.selected? s with
  | some api' => simpa [select, hselected] using h
  | none =>
      cases hr : (d.registry s.registry).select? s.vendor with
      | none => simp [select, hselected, hr] at h
      | some i =>
          have hv : ((select s).run d).value = (some i.api, d.withSelection s i) := by
            simp [select, hselected, hr, withSelection]
          rw [hv] at h ⊢
          cases h
          exact selected?_withSelection hselected i

/-- A service that selects nothing has not selected before, and there is nothing for its vendor. -/
theorem select_eq_none (h : ((select s).run d).value.1 = none) :
    d.selected? s = none ∧ (d.registry s.registry).select? s.vendor = none := by
  cases hselected : d.selected? s with
  | some api => simp [select, hselected] at h
  | none =>
      cases hr : (d.registry s.registry).select? s.vendor with
      | none => exact ⟨rfl, rfl⟩
      | some i => simp [select, hselected, hr] at h

/-- A service that selects nothing has nothing selected. -/
theorem selected?_of_select_eq_none (h : ((select s).run d).value.1 = none) :
    ((select s).run d).value.2.selected? s = none := by
  obtain ⟨hselected, hr⟩ := select_eq_none h
  simp [select, hselected, hr]

/-- Following selections ends at a manager, and then everything on the way is selected; or
it ends at a service that has nothing to select, or too early, and then there is no way that
is as short. -/
theorem managerWithin_leads (steps : Nat) (api : Api) (d : Deployment) :
    (∃ way m, ((managerWithin steps api).run d).value.2.Leads api way m ∧ way.length ≤ steps ∧
        ((managerWithin steps api).run d).value.1 = m.behindAll (way.map (·.limit))) ∨
      ((managerWithin steps api).run d).value.1.GrantsNothing ∧
        ∀ way m, ((managerWithin steps api).run d).value.2.Leads api way m →
          steps < way.length := by
  induction steps generalizing api d with
  | zero =>
      cases api with
      | direct m => exact .inl ⟨[], m, .direct m, Nat.le_refl 0, rfl⟩
      | client s =>
          refine .inr ⟨Manager.grantsNothing_unavailable s.vendor, ?_⟩
          intro way m hleads
          cases hleads with
          | client _ _ => exact Nat.zero_lt_succ _
  | succ steps ih =>
      cases api with
      | direct m => exact .inl ⟨[], m, .direct m, Nat.zero_le _, rfl⟩
      | client s =>
          have hselect := @selected?_select d s
          have hnone := @selected?_of_select_eq_none d s
          rw [managerWithin]
          simp only [StateT.run_bind, Run.value_bind]
          cases hv : ((select s).run d).value with
          | mk selected d₁ =>
              rw [hv] at hselect hnone
              cases selected with
              | none =>
                  refine .inr ⟨Manager.grantsNothing_unavailable s.vendor, ?_⟩
                  intro way m hleads
                  have hunselected : d₁.Leads (.client s) way m := hleads
                  cases hunselected with
                  | client hselected _ =>
                      rw [hnone rfl] at hselected
                      cases hselected
              | some next =>
                  -- the service keeps its selection while the rest of the way is followed
                  have hkept := (Keeps.managerWithin steps next d₁).selected s next (hselect rfl)
                  rcases ih next d₁ with ⟨way, m, hleads, hlength, hmanager⟩ | ⟨hnothing, hlong⟩
                  · refine .inl ⟨s :: way, m, ?_, Nat.succ_le_succ hlength, ?_⟩
                    · exact .client hkept hleads
                    · show Manager.behind s.limit ((managerWithin steps next).run d₁).value.1 = _
                      rw [hmanager]
                      rfl
                  · refine .inr ⟨hnothing.behind s.limit, ?_⟩
                    intro way m hleads
                    have hway :
                        ((managerWithin steps next).run d₁).value.2.Leads (.client s) way m :=
                      hleads
                    cases hway with
                    | client hselected hrest =>
                        rw [hkept] at hselected
                        cases hselected
                        exact Nat.succ_lt_succ (hlong _ _ hrest)

/-! ## What an api stands for -/

/-- The manager that an api stands for when it is asked. -/
def standsFor (d : Deployment) (api : Api) : Manager :=
  ((manager api).run d).value.1

/-- The deployment after an api is asked. -/
def asked (d : Deployment) (api : Api) : Deployment :=
  ((manager api).run d).value.2

/-- An operation on an api answers what the manager does that the api stands for. -/
theorem value_perform (api : Api) (d : Deployment) {α : Type} (operation : Manager → Run α) :
    ((perform api operation).run' d).value = (operation (d.standsFor api)).value := by
  rw [StateT.run'_eq, perform, StateT.run_bind]
  simp [standsFor]

/-- Whether a deployment is met in the place of another one, or after an api was asked
there, whatever is registered, selected and asked in between. -/
def Later (d : Deployment) (api : Api) (d' : Deployment) : Prop :=
  d' = d ∨ (d.asked api).Keeps d'

/-- **An api stands for the manager at the end of its way, now and later**, or it grants
nothing now. -/
theorem leads_or_grantsNothing (d : Deployment) (api : Api) :
    (∃ way m, (d.asked api).Leads api way m ∧
        ∀ d', d.Later api d' → d'.standsFor api = m.behindAll (way.map (·.limit))) ∨
      (d.standsFor api).GrantsNothing := by
  rcases managerWithin_leads d.services api d with
    ⟨way, m, hleads, hlength, hmanager⟩ | ⟨hnothing, -⟩
  · refine .inl ⟨way, m, hleads, ?_⟩
    rintro d' (rfl | hkeeps)
    · exact hmanager
    · have hservices : d'.services = d.services :=
        ((Keeps.managerWithin d.services api d).trans hkeeps).services
      have hrun : (manager api).run d' = pure (m.behindAll (way.map (·.limit)), d') :=
        run_managerWithin (hleads.keeps hkeeps) (hservices ▸ hlength)
      rw [standsFor, hrun]
      rfl
  · exact .inr hnothing

/-! ## Bulk and single answers -/

/-- Whether a client allows an inquiry when it is asked for nothing else, now or later. -/
def AllowsAlone (d : Deployment) (s : Service) (i : Inquiry) : Prop :=
  ∀ d', d.Later (.client s) d' →
    ((perform (.client s) (Decision.check i).ask).run' d').value = true

/-- **What a decision rests on is allowed alone.** -/
theorem allowsAlone_of_restsOn
    (hbackend : ∀ way m, (d.asked (.client s)).Leads (.client s) way m → m.IsBackend)
    {q : Decision} {is : List Inquiry}
    (h : q.RestsOn ((perform (.client s) q.ask).run' d).value is) :
    ∃ i ∈ is, d.AllowsAlone s i := by
  rw [value_perform] at h
  rcases leads_or_grantsNothing d (.client s) with ⟨way, m, hleads, hlater⟩ | hnothing
  · rw [hlater d (.inl rfl)] at h
    obtain ⟨i, hi, haffirmed⟩ := (hbackend way m hleads).grounded.behindAll _ q is h
    refine ⟨i, hi, ?_⟩
    intro d' hd'
    rw [value_perform, hlater d' hd']
    exact haffirmed.yes
  · exact absurd h (hnothing q is)

/-- Whether a client allows, for a method that counts, the question about all DAGs or the
one about an id when it is asked for nothing else. -/
def AllowsIdAlone (d : Deployment) (s : Service) (methods : List Method)
    (subject : Option Subject) (id : String) : Prop :=
  ∃ w, Derived.Wants methods w ∧
    (d.AllowsAlone s ⟨.record .dag w none, subject⟩ ∨
      d.AllowsAlone s ⟨.record .dag w (some (.ofId id)), subject⟩)

/-- An id is kept because of such a question. -/
theorem allowsIdAlone_of_mem {methods : List Method} {subject : Option Subject} {id : String}
    (h : ∃ i ∈ Derived.idInquiries methods subject id, d.AllowsAlone s i) :
    d.AllowsIdAlone s methods subject id := by
  obtain ⟨i, hi, halone⟩ := h
  rw [Derived.idInquiries, Derived.dagInquiries_eq, Derived.dagInquiries_eq, List.mem_append,
    Derived.mem_dagQuestions, Derived.mem_dagQuestions] at hi
  rcases hi with ⟨w, hw, rfl⟩ | ⟨w, hw, rfl⟩
  · exact ⟨w, hw, .inl halone⟩
  · exact ⟨w, hw, .inr halone⟩

/-- **Bulk answers are never more permissive than single ones.** Through a client whose
backend, if it has or finds one, has the derived operations or is the static one: what a
batch asks for is allowed alone if the batch is; an id that the DAG filter keeps, or a
listing has, is allowed alone for a method that counts, with all DAGs or by itself; and each
entry and child that the menu filter keeps is allowed alone. If the backend is selected and
no gateway has a limit, then a batch is the conjunction of its single answers. -/
theorem bulk_through_client
    (hbackend : ∀ way m, (d.asked (.client s)).Leads (.client s) way m → m.IsBackend) :
    let through (q : Decision) := ((perform (.client s) q.ask).run' d).value
    (∀ {k : RecordKind} (rs : List (Request k)),
        through (.batch rs) = true → ∀ r ∈ rs, d.AllowsAlone s r.inquiry) ∧
      (∀ ids methods subject, ∀ id ∈ (through (.filterDags ids methods subject)).toList,
        d.AllowsIdAlone s methods subject id) ∧
      (∀ source methods subject kept, through (.permittedDags source methods subject) = .ok kept →
        ∀ id ∈ kept.toList, d.AllowsIdAlone s methods subject id) ∧
      (∀ items subject, ∀ item ∈ through (.filterMenu items subject),
        d.AllowsAlone s ⟨.customView (.standard .menu) item.name, subject⟩ ∧
          ∀ c ∈ item.children, d.AllowsAlone s ⟨.customView (.standard .menu) c.name, subject⟩) ∧
      (∀ way m, d.Reachable → d.Leads (.client s) way m → (∀ s' ∈ way, s'.limit = none) →
        ∀ {k : RecordKind} (rs : List (Request k)),
          through (.batch rs) = rs.all fun r => through (.check r.inquiry)) := by
  intro through
  refine ⟨?_, ?_, ?_, ?_, ?_⟩
  · intro k rs hbatch r hr
    have hrests : (Decision.batch rs).RestsOn (through (.batch rs)) [r.inquiry] :=
      ⟨hbatch, r, hr, rfl⟩
    obtain ⟨i, hi, halone⟩ := allowsAlone_of_restsOn hbackend hrests
    rwa [List.mem_singleton.mp hi] at halone
  · intro ids methods subject id hid
    have hrests : (Decision.filterDags ids methods subject).RestsOn
        (through (.filterDags ids methods subject)) _ := ⟨id, hid, rfl⟩
    exact allowsIdAlone_of_mem (allowsAlone_of_restsOn hbackend hrests)
  · intro source methods subject kept hkept id hid
    have hrests : (Decision.permittedDags source methods subject).RestsOn
        (through (.permittedDags source methods subject)) _ := ⟨kept, hkept, id, hid, rfl⟩
    exact allowsIdAlone_of_mem (allowsAlone_of_restsOn hbackend hrests)
  · intro items subject item hitem
    have halone : ∀ c, c = item ∨ c ∈ item.children →
        d.AllowsAlone s (Derived.menuInquiry subject c) := by
      intro c hc
      have hrests : (Decision.filterMenu items subject).RestsOn
          (through (.filterMenu items subject)) _ := ⟨item, hitem, c, hc, rfl⟩
      obtain ⟨i, hi, halone⟩ := allowsAlone_of_restsOn hbackend hrests
      rwa [List.mem_singleton.mp hi] at halone
    exact ⟨halone item (.inl rfl), fun c hc => halone c (.inr hc)⟩
  · intro way m hd hleads hlimits k rs
    have hkeeps : d.Keeps (d.asked (.client s)) := Keeps.managerWithin d.services (.client s) d
    obtain ⟨b, hb⟩ := (hbackend way m (hleads.keeps hkeeps)).exists_backend
    have hthrough : ∀ q : Decision, through q = (q.ask b.manager).value := by
      intro q
      show ((perform (.client s) q.ask).run' d).value = _
      rw [run'_perform hd hleads, Manager.ask_behindAll_of_none, hb]
      intro l hl
      obtain ⟨s', hs', rfl⟩ := List.mem_map.mp hl
      exact hlimits s' hs'
    rw [hthrough]
    simp only [hthrough]
    show (Derived.all b.check (rs.map Request.inquiry)).value = _
    rw [Derived.value_all, List.all_map]
    rfl

/-- A batch of two checks that wait 10 ms each, through a client with a limit of 25 ms that
finds its backend only now: it is allowed, and so is the check alone. A batch of three is
not, though it asks for nothing else. -/
theorem bulk_through_client_three_too_many :
    let p : Probe := { number := 0, name := "slow", allowsAll := true, delay := 10 }
    let s : Service := ⟨0, 0, "acme", some 25⟩
    let d : Deployment :=
      { registries := [⟨[⟨"slow", "acme", 1, .direct p.manager⟩]⟩]
        services := 1 }
    let request : Request .pool := { method := .get, subject := some (.withoutId "ada") }
    let through (q : Decision) := ((perform (.client s) q.ask).run' d).value
    (∀ way m, (d.asked (.client s)).Leads (.client s) way m → m.IsBackend) ∧
      through (.batch [request, request]) = true ∧ d.AllowsAlone s request.inquiry ∧
      through (.batch [request, request, request]) = false := by
  intro p s d request through
  have hselected : (d.asked (.client s)).selected? s = some (.direct p.manager) := rfl
  have hbackend : ∀ way m, (d.asked (.client s)).Leads (.client s) way m → m.IsBackend := by
    intro way m hleads
    cases hleads with
    | client hselected' hnext =>
        rw [hselected] at hselected'
        cases hselected'
        cases hnext
        exact .derived p.backend
  have htwo : through (.batch [request, request]) = true := by rfl
  have halone : d.AllowsAlone s request.inquiry :=
    (bulk_through_client hbackend).1 [request, request] htwo request List.mem_cons_self
  exact ⟨hbackend, htwo, halone, by rfl⟩

end AccessGate.Deployment
