/-
# Settings in another order

A table is searched by name, and the grants of a name for any one that covers a check. So it
does not matter in which order subjects, rules, methods and DAG ids are written, nor whether a
rule, a method or an id is written once or again. Only a subject that is written again is a
fault, in any order.

* `StaticSettings.Rearranges` : settings that say the same in another order;
* `StaticSettings.Rearranges.symm` : it is a matter of both;
* `StaticSettings.Sound.of_rearranges`, `StaticSettings.Permits.of_rearranges` : a fault or a
  permission is not lost;
* `GrantTable.order_carries_no_meaning` : all answers are the same.
-/
import AccessGate.Proofs.Batch
import AccessGate.Proofs.FirstFault
import AccessGate.Proofs.Growth
import AccessGate.StaticPlugin
import Mathlib.Data.List.Perm.Basic
import Mathlib.Data.List.Sort

namespace AccessGate

/-! ## Rearranging -/

/-- Whether two rules differ in nothing but the order of their methods, and in how often each
method is listed. -/
structure GrantSettings.Rearranges (g g' : GrantSettings) : Prop where
  resource : g.resource = g'.resource
  methods : ∀ a, a ∈ g.methods ↔ a ∈ g'.methods
  id : g.id = g'.id
  part : g.part = g'.part

/-- Whether two subjects differ in nothing but the order of their rules, in how often each rule
is listed, and in how its methods are. -/
structure SubjectSettings.Rearranges (e e' : SubjectSettings) : Prop where
  name : e.name = e'.name
  id : e.id = e'.id
  rule : ∀ g ∈ e.grants, ∃ g' ∈ e'.grants, g.Rearranges g'
  rule' : ∀ g' ∈ e'.grants, ∃ g ∈ e.grants, g.Rearranges g'

/-- Whether two settings decide in the same mode, name the same subject as signed in, and differ
in the order of their subjects, in how these are written, and in the order of the DAG ids and
how often each is listed. Under which vendor and priority a table is offered may differ too. -/
structure StaticSettings.Rearranges (s s' : StaticSettings) : Prop where
  mode : s.mode = s'.mode
  signedIn : s.signedIn = s'.signedIn
  subjects : ∃ es, s.subjects.Perm es ∧ es.Forall₂ SubjectSettings.Rearranges s'.subjects
  dagIds : ∀ id, id ∈ s.dagIds ↔ id ∈ s'.dagIds

theorem GrantSettings.Rearranges.symm {g g' : GrantSettings} (h : g.Rearranges g') :
    g'.Rearranges g where
  resource := h.resource.symm
  methods a := (h.methods a).symm
  id := h.id.symm
  part := h.part.symm

theorem SubjectSettings.Rearranges.symm {e e' : SubjectSettings} (h : e.Rearranges e') :
    e'.Rearranges e where
  name := h.name.symm
  id := h.id.symm
  rule g' hg' := by
    obtain ⟨g, hg, hgg'⟩ := h.rule' g' hg'
    exact ⟨g, hg, hgg'.symm⟩
  rule' g hg := by
    obtain ⟨g', hg', hgg'⟩ := h.rule g hg
    exact ⟨g', hg', hgg'.symm⟩

namespace StaticSettings.Rearranges

variable {s s' : StaticSettings}

/-- **What can be rearranged can be put back.** -/
theorem symm (h : s.Rearranges s') : s'.Rearranges s where
  mode := h.mode.symm
  signedIn := h.signedIn.symm
  subjects := by
    obtain ⟨es, hperm, hes⟩ := h.subjects
    -- rewriting the subjects where they stand and then changing places comes to the same
    obtain ⟨es', hes', hperm'⟩ := List.perm_comp_forall₂ hperm hes
    exact ⟨es', hperm'.symm, hes'.flip.imp fun _ _ => SubjectSettings.Rearranges.symm⟩
  dagIds id := (h.dagIds id).symm

/-- Each subject has its counterpart. -/
theorem exists_subject (h : s.Rearranges s') {e : SubjectSettings} (he : e ∈ s.subjects) :
    ∃ e' ∈ s'.subjects, e.Rearranges e' := by
  obtain ⟨es, hperm, hes⟩ := h.subjects
  have hsub : es.SublistForall₂ SubjectSettings.Rearranges s'.subjects :=
    List.sublistForall₂_iff.mpr ⟨s'.subjects, hes, .refl _⟩
  exact exists_of_sublistForall₂ hsub (hperm.mem_iff.mp he)

/-- The names of the subjects are the same, in some order. -/
theorem names (h : s.Rearranges s') : (s.subjects.map (·.name)).Perm (s'.subjects.map (·.name)) := by
  obtain ⟨es, hperm, hes⟩ := h.subjects
  have hnames : es.map (·.name) = s'.subjects.map (·.name) := by
    rw [← List.forall₂_eq_eq_eq, List.forall₂_map_left_iff, List.forall₂_map_right_iff]
    exact hes.imp fun _ _ he => he.name
  rw [← hnames]
  exact hperm.map (·.name)

end StaticSettings.Rearranges

/-! ## What is kept -/

/-- A rule that makes sense does so with its methods in another order. -/
theorem GrantSettings.Sound.of_rearranges {g g' : GrantSettings} (h : g.Sound)
    (hg : g.Rearranges g') : g'.Sound where
  methods := by
    intro hempty
    obtain ⟨a, ha⟩ := List.exists_mem_of_ne_nil g.methods h.methods
    have ha' := (hg.methods a).mp ha
    rw [hempty] at ha'
    cases ha'
  part := by
    rw [← hg.part, ← hg.resource]
    exact h.part
  standard := by
    rw [← hg.resource]
    intro hresource a ha
    exact h.standard hresource a ((hg.methods a).mpr ha)

/-- It answers the same questions. -/
theorem GrantSettings.Answers.of_rearranges {same : Action → Action → Prop} {g g' : GrantSettings}
    {q : Question} (h : g.Answers same q) (hg : g.Rearranges g') : g'.Answers same q where
  resource := hg.resource.symm.trans h.resource
  action := by
    obtain ⟨a, ha, hsame⟩ := h.action
    exact ⟨a, (hg.methods a).mp ha, hsame⟩
  scope := by
    rw [← hg.id]
    exact h.scope
  part := by
    rw [← hg.part]
    exact h.part

namespace StaticSettings

variable {s s' : StaticSettings}

/-- Settings without a fault have none in another order. -/
theorem Sound.of_rearranges (h : s.Sound) (hs : s.Rearranges s') : s'.Sound where
  subjects := by
    refine ⟨?_, hs.names.nodup_iff.mp h.subjects.nodup⟩
    intro e' he' g' hg'
    obtain ⟨e, he, hee'⟩ := hs.symm.exists_subject he'
    obtain ⟨g, hg, hgg'⟩ := hee'.rule g' hg'
    exact (h.subjects.sound e he g hg).of_rearranges hgg'.symm
  signedIn := by
    intro name hname
    exact hs.names.mem_iff.mp (h.signedIn name (hs.signedIn.trans hname))

/-- Settings in another order permit what they permitted. -/
theorem Permits.of_rearranges {same : Action → Action → Prop} {q : Question}
    {caller : Option Subject} (h : s.Permits same q caller) (hs : s.Rearranges s') :
    s'.Permits same q caller := by
  refine h.imp hs.mode.symm ?_
  intro e he g hg hanswers
  obtain ⟨e', he', hee'⟩ := hs.exists_subject he
  obtain ⟨g', hg', hgg'⟩ := hee'.rule g hg
  exact ⟨e', he', hee'.name.symm, hee'.id.symm, g', hg', hanswers.of_rearranges hgg'⟩

end StaticSettings

/-- A set depends on the members of the list it is collected from, not on their order. -/
theorem DagIds.ofList_congr {l l' : List String} (h : ∀ id, id ∈ l ↔ id ∈ l') :
    ofList l = ofList l' := by
  have hmem : ∀ id, id ∈ (ofList l).toList ↔ id ∈ (ofList l').toList := by
    intro id
    rw [mem_ofList, mem_ofList, h]
  have hlist := (ofList l).ascending.eq_of_mem_iff (ofList l').ascending hmem
  rw [← ofList_toList (ofList l), hlist, ofList_toList]

namespace GrantTable

variable {s s' : StaticSettings} {t t' : GrantTable}

/-! ## What tables answer -/

/-- Whether a caller is an impostor is seen from the subject of its name. -/
theorem isImpostor_eq (t : GrantTable) (c : Subject) :
    t.isImpostor c = (t.subject? c.name).any fun x => !Grant.admits x.id c.id := by
  rw [isImpostor, subject?]
  cases find? c.name t.entries <;> rfl

section Rearranges

variable (hs : ofSettings s = .ok t) (hs' : ofSettings s' = .ok t') (h : s.Rearranges s')
include hs hs' h

/-- A name stands for the same subject in another order. -/
theorem subject?_congr (name : String) : t.subject? name = t'.subject? name := by
  have hmp : ∀ {s s' : StaticSettings} {t t' : GrantTable}, ofSettings s = .ok t →
      ofSettings s' = .ok t' → s.Rearranges s' → ∀ x, t.subject? name = some x →
        t'.subject? name = some x := by
    intro s s' t t' hs hs' h x hx
    obtain ⟨e, he, hname, rfl⟩ := (subject?_eq_some hs).mp hx
    obtain ⟨e', he', hee'⟩ := h.exists_subject he
    exact (subject?_eq_some hs').mpr ⟨e', he', hee'.name.symm.trans hname, by rw [hee'.id]⟩
  ext x
  exact ⟨hmp hs hs' h x, hmp hs' hs h.symm x⟩

/-- The same subject is signed in. -/
theorem current_congr : t.current = t'.current := by
  rw [current_eq hs, current_eq hs', h.mode, h.signedIn]
  simp only [subject?_congr hs hs' h]

/-- **The same questions are answered with yes, and the same is logged** about the others. -/
theorem backend_check_congr : t.backend.check = t'.backend.check := by
  funext i
  apply check_eq_check
  · rw [permits, permits, Bool.eq_iff_iff, allows_iff hs, allows_iff hs']
    exact ⟨fun hp => hp.of_rearranges h, fun hp => hp.of_rearranges h.symm⟩
  · intro c _
    rw [isImpostor_eq, isImpostor_eq, subject?_congr hs hs' h]

end Rearranges

/-- **The order of settings carries no meaning.** Settings and the same ones in another order
are both accepted or both refused. If they are accepted then the same subject is signed in, and
every question, batch, DAG filter, menu filter and listing of the configured DAG ids is answered
alike, with the same log. -/
theorem order_carries_no_meaning (h : s.Rearranges s') :
    ((∃ t, ofSettings s = .ok t) ↔ ∃ t', ofSettings s' = .ok t') ∧
      ∀ t t', ofSettings s = .ok t → ofSettings s' = .ok t' →
        t.manager.subject = t'.manager.subject ∧
          (∀ i, t.manager.check i = t'.manager.check i) ∧
          (∀ {k : RecordKind} (rs : List (Request k)), t.manager.batch rs = t'.manager.batch rs) ∧
          (∀ ids methods caller,
            t.manager.filterDags ids methods caller = t'.manager.filterDags ids methods caller) ∧
          (∀ items caller, t.manager.filterMenu items caller = t'.manager.filterMenu items caller) ∧
          ∀ methods caller,
            t.manager.permittedDags (StaticPlugin.dagSource s) methods caller =
              t'.manager.permittedDags (StaticPlugin.dagSource s') methods caller := by
  refine ⟨?_, ?_⟩
  · rw [exists_ofSettings_iff, exists_ofSettings_iff]
    exact ⟨fun hsound => hsound.of_rearranges h, fun hsound => hsound.of_rearranges h.symm⟩
  · intro t t' hs hs'
    have hcheck : t.backend.check = t'.backend.check := backend_check_congr hs hs' h
    have hfilter : t.manager.filterDags = t'.manager.filterDags :=
      congrArg (fun ask => Derived.filterDags ask) hcheck
    have hsource : StaticPlugin.dagSource s = StaticPlugin.dagSource s' := by
      rw [StaticPlugin.dagSource, StaticPlugin.dagSource, DagIds.ofList_congr h.dagIds]
    refine ⟨?_, congrFun hcheck, ?_, ?_, ?_, ?_⟩
    · show (pure t.current : Run (Option Subject)) = pure t'.current
      rw [current_congr hs hs' h]
    · intro k rs
      show t.batch rs = t'.batch rs
      rw [batch_eq, batch_eq, hcheck]
    · intro ids methods caller
      rw [hfilter]
    · intro items caller
      show Derived.filterMenu t.backend.check caller items = _
      rw [hcheck]
      rfl
    · intro methods caller
      show Derived.permittedDags t.manager.filterDags _ methods caller = _
      rw [hfilter, hsource]
      rfl

/-- Two subjects change places, and of one of them the rules do as well; methods, a rule and an
id are written twice. Both tables list the same DAGs for her. -/
theorem order_carries_no_meaning_repeated_rule :
    let etl : GrantSettings :=
      { resource := .record .dag, methods := [.standard .get, .standard .put], id := some "etl" }
    let etl' : GrantSettings :=
      { resource := .record .dag
        methods := [.standard .put, .standard .get, .standard .put]
        id := some "etl" }
    let audit : GrantSettings :=
      { resource := .record .dag, methods := [.standard .get], id := some "audit" }
    let ada : SubjectSettings := { name := "ada", grants := [etl, audit] }
    let ada' : SubjectSettings := { name := "ada", grants := [audit, etl', audit] }
    let zed : SubjectSettings := { name := "zed", id := some "9" }
    let s : StaticSettings :=
      { mode := .staticGrants, signedIn := some "ada", subjects := [ada, zed]
        dagIds := ["etl", "audit", "sync"] }
    let s' : StaticSettings :=
      { mode := .staticGrants, signedIn := some "ada", subjects := [zed, ada']
        dagIds := ["sync", "audit", "etl", "audit"] }
    let t : GrantTable := ⟨.staticGrants, [ada.entry, zed.entry], some (.withoutId "ada")⟩
    let t' : GrantTable := ⟨.staticGrants, [zed.entry, ada'.entry], some (.withoutId "ada")⟩
    ofSettings s = .ok t ∧ ofSettings s' = .ok t' ∧ s.Rearranges s' ∧
      (t.manager.permittedDags (StaticPlugin.dagSource s) [] t.current).value =
        .ok (.ofList ["audit", "etl"]) ∧
      (t'.manager.permittedDags (StaticPlugin.dagSource s') [] t.current).value =
        .ok (.ofList ["audit", "etl"]) := by
  intro etl etl' audit ada ada' zed s s' t t'
  have hs : ofSettings s = .ok t := by rfl
  have hs' : ofSettings s' = .ok t' := by rfl
  have hetl : etl.Rearranges etl' := by
    refine ⟨rfl, ?_, rfl, rfl⟩
    intro a
    simp only [etl, etl', List.mem_cons]
    tauto
  have haudit : audit.Rearranges audit := ⟨rfl, fun _ => Iff.rfl, rfl, rfl⟩
  have hada : ada.Rearranges ada' := by
    refine ⟨rfl, rfl, ?_, ?_⟩
    · simp [ada, ada', hetl, haudit]
    · simp [ada, ada', hetl, haudit]
  have hzed : zed.Rearranges zed := by
    refine ⟨rfl, rfl, ?_, ?_⟩ <;> rintro g ⟨⟩
  have hrearranges : s.Rearranges s' := by
    refine ⟨rfl, rfl, ⟨[zed, ada], .swap zed ada [], .cons hzed (.cons hada .nil)⟩, ?_⟩
    intro id
    simp only [s, s', List.mem_cons]
    tauto
  obtain ⟨-, halike⟩ := order_carries_no_meaning hrearranges
  obtain ⟨-, -, -, -, -, hlisting⟩ := halike t t' hs hs'
  have hlisted : (t.manager.permittedDags (StaticPlugin.dagSource s) [] t.current).value =
      .ok (.ofList ["audit", "etl"]) := by rfl
  refine ⟨hs, hs', hrearranges, hlisted, ?_⟩
  rw [← hlisting]
  exact hlisted

end GrantTable

end AccessGate
