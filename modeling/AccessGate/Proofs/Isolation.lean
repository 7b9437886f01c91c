/-
# Answers for one name

What a subject is answered depends on the mode and on what the settings say under its own
name. Nothing else in them is of any account: neither what is written for others, or where,
nor who is signed in and how that is found out. The same holds of what is logged.

Two settings are compared that need not have anything in common but this entry. The look-up
by name is the only place where a table is searched, so the entries found there are compared
first, then the decisions, and then all operations, which ask on behalf of the name alone.

* `StaticSettings.AgreeOn` : settings that say the same under a name;
* `GrantTable.find?_of_agreeOn` : what is found under the name in their tables;
* `GrantTable.check_congr` : questions are answered alike, and logged alike;
* `GrantTable.answers_of_agreeOn` : so are all decisions for the name.
-/
import AccessGate.Proofs.Batch
import AccessGate.Proofs.Permission

namespace AccessGate

/-- Whether nobody asks, or somebody of this name. -/
def AsksAs (name : String) (caller : Option Subject) : Prop :=
  ∀ c, caller = some c → c.name = name

/-- Whether settings say the same under a name: nothing at all; or both have a subject of the
name, with the same id, if any but the empty one, and with the same rules. -/
inductive StaticSettings.AgreeOn (name : String) (s s' : StaticSettings) : Prop where
  | unknown :
      (∀ e ∈ s.subjects, e.name ≠ name) → (∀ e ∈ s'.subjects, e.name ≠ name) → AgreeOn name s s'
  | known {e e' : SubjectSettings} :
      e ∈ s.subjects → e' ∈ s'.subjects → e.name = name → e'.name = name →
        e.id.filter (· ≠ "") = e'.id.filter (· ≠ "") → (∀ g, g ∈ e.grants ↔ g ∈ e'.grants) →
          AgreeOn name s s'

namespace GrantTable

variable {s s' : StaticSettings} {t t' : GrantTable} {name : String}

/-! ## Looking the name up -/

/-- A name that no subject has is not found. -/
theorem find?_eq_none (hs : ofSettings s = .ok t) (h : ∀ e ∈ s.subjects, e.name ≠ name) :
    find? name t.entries = none := by
  rw [entries_of_ofSettings hs, find?_entries_eq_none]
  intro hmem
  obtain ⟨e, he, hname⟩ := List.mem_map.mp hmem
  exact h e he hname

/-- **Under the name both tables have nothing, or entries of the same subject with the same
grants.** -/
theorem find?_of_agreeOn (hs : ofSettings s = .ok t) (hs' : ofSettings s' = .ok t')
    (h : s.AgreeOn name s') :
    find? name t.entries = none ∧ find? name t'.entries = none ∨
      ∃ e e', find? name t.entries = some e ∧ find? name t'.entries = some e' ∧
        e.subject = e'.subject ∧ ∀ g, g ∈ e.grants ↔ g ∈ e'.grants := by
  cases h with
  | unknown hunknown hunknown' =>
      exact .inl ⟨find?_eq_none hs hunknown, find?_eq_none hs' hunknown'⟩
  | @known e e' he he' hname hname' hid hgrants =>
      have hfind : find? name t.entries = some e.entry :=
        (find?_of_ofSettings hs).mpr ⟨e, he, hname, rfl⟩
      have hfind' : find? name t'.entries = some e'.entry :=
        (find?_of_ofSettings hs').mpr ⟨e', he', hname', rfl⟩
      refine .inr ⟨e.entry, e'.entry, hfind, hfind', ?_, ?_⟩
      · rw [SubjectSettings.entry, SubjectSettings.entry, hid, hname, hname']
      · intro g
        simp only [SubjectSettings.entry, List.mem_map, hgrants]

/-! ## Decisions -/

section Decisions

variable (hs : ofSettings s = .ok t) (hs' : ofSettings s' = .ok t') (h : s.AgreeOn name s')
include hs hs' h

/-- A caller of the name holds the same grants. -/
theorem mem_grantsFor_congr {caller : Subject} (hcaller : caller.name = name) (g : Grant) :
    g ∈ t.grantsFor caller ↔ g ∈ t'.grantsFor caller := by
  rw [grantsFor, grantsFor, hcaller]
  rcases find?_of_agreeOn hs hs' h with ⟨hnone, hnone'⟩ | ⟨e, e', he, he', hsubject, hgrants⟩
  · rw [hnone, hnone']
  · rw [he, he']
    simp only [Entry.admits, hsubject]
    by_cases hid : Grant.admits e'.subject.id caller.id = true
    · simp only [hid, if_true, hgrants]
    · simp [hid]

/-- It is an impostor under both settings or under neither. -/
theorem isImpostor_congr {caller : Subject} (hcaller : caller.name = name) :
    t.isImpostor caller = t'.isImpostor caller := by
  rw [isImpostor, isImpostor, hcaller]
  rcases find?_of_agreeOn hs hs' h with ⟨hnone, hnone'⟩ | ⟨e, e', he, he', hsubject, -⟩
  · rw [hnone, hnone']
  · rw [he, he']
    simp only [Entry.admits, hsubject]

variable (hmode : s.mode = s'.mode)
include hmode

/-- What is asked on behalf of the name is allowed under both or under neither. -/
theorem permits_congr {i : Inquiry} (hi : AsksAs name i.subject) : t.permits i = t'.permits i := by
  rw [permits, permits]
  cases hcaller : i.subject with
  | none => rfl
  | some caller =>
      have hgrants := mem_grantsFor_congr hs hs' h (hi caller hcaller)
      rw [allows, allows, mode_of_ofSettings hs, mode_of_ofSettings hs', hmode]
      cases s'.mode with
      | allowAll => rfl
      | staticGrants =>
          rw [Bool.eq_iff_iff, List.any_eq_true, List.any_eq_true]
          simp only [hgrants]

/-- **A question on behalf of the name is answered alike**, and the same is logged about it. -/
theorem check_congr {i : Inquiry} (hi : AsksAs name i.subject) :
    t.backend.check i = t'.backend.check i := by
  refine check_eq_check (permits_congr hs hs' h hmode hi) ?_
  intro caller hcaller
  exact isImpostor_congr hs hs' h (hi caller hcaller)

end Decisions

/-- **What is said about others is of no account.** If two settings have the same mode and
say the same under a name, then their tables decide alike, and log the same, whatever is
asked on behalf of the name: single questions, batches, DAG filters and menus. It does not
matter who is signed in under the one or the other, nor how this is found out. -/
theorem answers_of_agreeOn (hs : ofSettings s = .ok t) (hs' : ofSettings s' = .ok t')
    (hmode : s.mode = s'.mode) (h : s.AgreeOn name s') (resolver resolver' : Run (Option Subject)) :
    let m := t.resolvedBy resolver
    let m' := t'.resolvedBy resolver'
    (∀ q caller, AsksAs name caller → m.check ⟨q, caller⟩ = m'.check ⟨q, caller⟩) ∧
      (∀ {k : RecordKind} (rs : List (Request k)), (∀ r ∈ rs, AsksAs name r.subject) →
        m.batch rs = m'.batch rs) ∧
      (∀ ids methods caller, AsksAs name caller →
        m.filterDags ids methods caller = m'.filterDags ids methods caller) ∧
      ∀ items caller, AsksAs name caller →
        m.filterMenu items caller = m'.filterMenu items caller := by
  intro m m'
  have hcheck : ∀ q caller, AsksAs name caller →
      t.backend.check ⟨q, caller⟩ = t'.backend.check ⟨q, caller⟩ :=
    fun q caller hcaller => check_congr hs hs' h hmode hcaller
  refine ⟨hcheck, ?_, ?_, ?_⟩
  · intro k rs hrs
    show t.batch rs = t'.batch rs
    rw [batch_eq, batch_eq, Derived.batch, Derived.batch]
    apply Derived.all_congr
    intro i hi
    obtain ⟨r, hr, rfl⟩ := List.mem_map.mp hi
    exact hcheck _ _ (hrs r hr)
  · intro ids methods caller hcaller
    exact Derived.filterDags_congr (fun q => hcheck q caller hcaller) ids methods
  · intro items caller hcaller
    exact Derived.filterMenu_congr (fun q => hcheck q caller hcaller) items

/-- One entry in settings that have nothing else in common: the same subject is alone and
signed in, or stands behind one who is allowed everything on DAGs, and who is signed in takes
a while to find out. Its DAGs are the same ones. -/
theorem answers_of_agreeOn_other_company :
    let rule : GrantSettings :=
      { resource := .record .dag, methods := [.standard .get], id := some "etl" }
    let ada : SubjectSettings := { name := "ada", grants := [rule] }
    let ada' : SubjectSettings := { name := "ada", id := some "", grants := [rule, rule] }
    let bob : SubjectSettings := { name := "bob", grants := [{ rule with id := none }] }
    let s : StaticSettings := { mode := .staticGrants, signedIn := some "ada", subjects := [ada] }
    let s' : StaticSettings :=
      { vendor := "third", priority := -5, mode := .staticGrants, subjects := [bob, ada']
        dagIds := ["etl"] }
    let t : GrantTable := ⟨.staticGrants, [ada.entry], some (.withoutId "ada")⟩
    let t' : GrantTable := ⟨.staticGrants, [bob.entry, ada'.entry], none⟩
    let resolver' : Run (Option Subject) := do
      Run.wait 5
      return some (.withoutId "bob")
    let ids : DagIds := .ofList ["etl", "audit"]
    let caller : Option Subject := some (.withId "7" "ada")
    ofSettings s = .ok t ∧ ofSettings s' = .ok t' ∧ s.mode = s'.mode ∧ s.AgreeOn "ada" s' ∧
      AsksAs "ada" caller ∧
      t.manager.filterDags ids [] caller = (t'.resolvedBy resolver').filterDags ids [] caller ∧
      (t.manager.filterDags ids [] caller).value = .ofList ["etl"] := by
  intro rule ada ada' bob s s' t t' resolver' ids caller
  have hs : ofSettings s = .ok t := by rfl
  have hs' : ofSettings s' = .ok t' := by rfl
  have hada : ada ∈ s.subjects := List.mem_singleton.mpr rfl
  have hada' : ada' ∈ s'.subjects := List.mem_cons_of_mem bob (List.mem_singleton.mpr rfl)
  have hagree : s.AgreeOn "ada" s' := .known hada hada' rfl rfl rfl (by simp [ada, ada'])
  have hcaller : AsksAs "ada" caller := by
    intro c hc
    rw [← Option.some.inj hc]
    rfl
  obtain ⟨-, -, hfilter, -⟩ := answers_of_agreeOn hs hs' rfl hagree (return t.current) resolver'
  exact ⟨hs, hs', rfl, hagree, hcaller, hfilter ids [] caller hcaller, by rfl⟩

end GrantTable

end AccessGate
