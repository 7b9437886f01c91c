/-
# Settings with more in them

A rule only ever allows, and subjects do not stand in each other's way. So nothing is lost
when settings grow: what is allowed under them is allowed under settings that have more
rules in any place, and more subjects in any place.

The filters cannot be compared answer by answer, as the DAG filter may find all DAGs allowed
where it had to go through the ids before. What they keep can: a larger set of ids, and a
menu in which the old one is contained.

* `StaticSettings.GrowsTo` : settings with more in them;
* `StaticSettings.Permits.of_growsTo` : they permit no less;
* `Derived.filterDags_mono`, `Derived.filterMenu_mono` : a backend that says yes more often
  keeps no less;
* `GrantTable.grants_only_add` : the same for all that the static backend decides.
-/
import AccessGate.Proofs.Batch
import AccessGate.Proofs.Permission
import Mathlib.Data.List.Forall2

namespace AccessGate

/-! ## Growing -/

/-- Whether one subject is another one with more rules: some may have been put anywhere among
the rules that were there. -/
structure SubjectSettings.GrowsTo (e e' : SubjectSettings) : Prop where
  name : e'.name = e.name
  id : e'.id = e.id
  grants : e.grants.Sublist e'.grants

/-- Whether settings decide in the same mode as others and have more in them: subjects may
have more rules, and other subjects may have been put anywhere among them. -/
structure StaticSettings.GrowsTo (s s' : StaticSettings) : Prop where
  mode : s'.mode = s.mode
  subjects : s.subjects.SublistForall₂ SubjectSettings.GrowsTo s'.subjects

/-- What is in a list is in a larger one too, in its own form. -/
theorem exists_of_sublistForall₂ {α β : Type} {R : α → β → Prop} {as : List α} {bs : List β}
    (h : as.SublistForall₂ R bs) {a : α} (ha : a ∈ as) : ∃ b ∈ bs, R a b := by
  induction h with
  | nil => cases ha
  | @cons a' b as bs hab _ ih =>
      rcases List.mem_cons.mp ha with rfl | ha
      · exact ⟨b, List.mem_cons_self, hab⟩
      · obtain ⟨b', hb', hab'⟩ := ih ha
        exact ⟨b', List.mem_cons_of_mem b hb', hab'⟩
  | @cons_right b as bs _ ih =>
      obtain ⟨b', hb', hab'⟩ := ih ha
      exact ⟨b', List.mem_cons_of_mem b hb', hab'⟩

/-- **Settings with more in them permit no less.** -/
theorem StaticSettings.Permits.of_growsTo {same : Action → Action → Prop} {s s' : StaticSettings}
    {q : Question} {caller : Option Subject} (h : s.Permits same q caller) (hgrows : s.GrowsTo s') :
    s'.Permits same q caller := by
  refine h.imp hgrows.mode ?_
  intro e he g hg hanswers
  obtain ⟨e', he', heGrows⟩ := exists_of_sublistForall₂ hgrows.subjects he
  exact ⟨e', he', heGrows.name, heGrows.id, g, heGrows.grants.subset hg, hanswers⟩

/-! ## Saying yes more often -/

/-- Whether an entry is shown as another one is, with at least its children in their order. -/
structure MenuItem.ShownIn (item item' : MenuItem) : Prop where
  name : item'.name = item.name
  label : item'.label = item.label
  href : item'.href = item.href
  children : item.children.Sublist item'.children

/-- If more names are allowed then the old menu is contained in the new one, in order, entry by
entry and child by child. -/
theorem MenuItem.filter_shownIn {p p' : MenuItem → Bool}
    (h : ∀ item, p item = true → p' item = true) (items : List MenuItem) :
    ((items.filter p).map fun item => item.withChildren (item.children.filter p)).SublistForall₂
      MenuItem.ShownIn
      ((items.filter p').map fun item => item.withChildren (item.children.filter p')) := by
  induction items with
  | nil => exact .nil
  | cons item rest ih =>
      by_cases hold : p item = true
      · rw [List.filter_cons_of_pos hold, List.filter_cons_of_pos (h item hold), List.map_cons,
          List.map_cons]
        refine .cons ⟨?_, ?_, ?_, ?_⟩ ih
        · simp
        · simp
        · simp
        · simpa using List.monotone_filter_right item.children h
      · rw [List.filter_cons_of_neg hold]
        by_cases hnew : p' item = true
        · rw [List.filter_cons_of_pos hnew]
          exact .cons_right ih
        · rw [List.filter_cons_of_neg hnew]
          exact ih

namespace Derived

variable {ask ask' : Inquiry → Run Bool} {subject : Option Subject}
  (h : ∀ q, (ask ⟨q, subject⟩).value = true → (ask' ⟨q, subject⟩).value = true)
include h

/-- The DAG filter keeps no less, though it may keep it for another reason. -/
theorem filterDags_mono {ids : DagIds} {methods : List Method} {id : String}
    (hid : id ∈ (filterDags ask ids methods subject).value.toList) :
    id ∈ (filterDags ask' ids methods subject).value.toList := by
  rw [mem_filterDags] at hid ⊢
  obtain ⟨hids, ⟨w, hw, hall⟩ | ⟨w, hw, hone⟩⟩ := hid
  · exact ⟨hids, .inl ⟨w, hw, h _ hall⟩⟩
  · exact ⟨hids, .inr ⟨w, hw, h _ hone⟩⟩

/-- The menu filter keeps no less: the old menu is contained in the new one. -/
theorem filterMenu_mono (items : List MenuItem) :
    (filterMenu ask subject items).value.SublistForall₂ MenuItem.ShownIn
      (filterMenu ask' subject items).value := by
  rw [value_filterMenu, value_filterMenu]
  exact MenuItem.filter_shownIn (fun item => h (menuInquiry subject item).question) items

end Derived

/-! ## The static backend -/

namespace GrantTable

variable {s s' : StaticSettings} {t t' : GrantTable}

/-- What a table allows is allowed by the table of settings with more in them. -/
theorem permits_of_growsTo (hs : ofSettings s = .ok t) (hs' : ofSettings s' = .ok t')
    (h : s.GrowsTo s') {i : Inquiry} (hi : t.permits i = true) : t'.permits i = true := by
  rw [permits, allows_iff hs] at hi
  rw [permits, allows_iff hs']
  exact hi.of_growsTo h

/-- **Rules only ever add.** If settings and others with more in them both describe a table,
then every check and every batch that the first table allows is allowed by the second, every
id that the DAG filter keeps is kept, and the menu that is shown is contained in the new
one. -/
theorem grants_only_add (hs : ofSettings s = .ok t) (hs' : ofSettings s' = .ok t')
    (h : s.GrowsTo s') :
    (∀ i, (t.manager.check i).value = true → (t'.manager.check i).value = true) ∧
      (∀ {k : RecordKind} (rs : List (Request k)),
        (t.manager.batch rs).value = true → (t'.manager.batch rs).value = true) ∧
      (∀ ids methods caller, ∀ id ∈ (t.manager.filterDags ids methods caller).value.toList,
        id ∈ (t'.manager.filterDags ids methods caller).value.toList) ∧
      ∀ items caller, (t.manager.filterMenu items caller).value.SublistForall₂ MenuItem.ShownIn
        (t'.manager.filterMenu items caller).value := by
  have hcheck : ∀ i, (t.backend.check i).value = true → (t'.backend.check i).value = true :=
    fun i => permits_of_growsTo hs hs' h
  refine ⟨hcheck, ?_, ?_, ?_⟩
  · intro k rs hbatch
    have hall : rs.all (fun r => t.permits r.inquiry) = true := (t.value_batch rs).symm.trans hbatch
    refine (t'.value_batch rs).trans ?_
    rw [List.all_eq_true] at hall ⊢
    intro r hr
    exact permits_of_growsTo hs hs' h (hall r hr)
  · intro ids methods caller id hid
    exact Derived.filterDags_mono (fun q => hcheck ⟨q, caller⟩) hid
  · intro items caller
    exact Derived.filterMenu_mono (fun q => hcheck ⟨q, caller⟩) items

/-- A subject is put in front, and a rule for all DAGs in front of the one for a single DAG:
the filter goes through the ids before, and does not any more, and what it kept it keeps. -/
theorem grants_only_add_blanket_rule :
    let one : GrantSettings :=
      { resource := .record .dag, methods := [.standard .get], id := some "etl" }
    let all : GrantSettings := { resource := .record .dag, methods := [.standard .get] }
    let ada : SubjectSettings := { name := "ada", grants := [one] }
    let ada' : SubjectSettings := { name := "ada", grants := [all, one] }
    let zed : SubjectSettings := { name := "zed", id := some "9" }
    let s : StaticSettings := { mode := .staticGrants, subjects := [ada] }
    let s' : StaticSettings := { mode := .staticGrants, subjects := [zed, ada'] }
    let t : GrantTable := ⟨.staticGrants, [ada.entry], none⟩
    let t' : GrantTable := ⟨.staticGrants, [zed.entry, ada'.entry], none⟩
    let ids : DagIds := .ofList ["etl", "audit"]
    let caller : Option Subject := some (.withoutId "ada")
    ofSettings s = .ok t ∧ ofSettings s' = .ok t' ∧ s.GrowsTo s' ∧
      (t.manager.filterDags ids [] caller).value = .ofList ["etl"] ∧
      "etl" ∈ (t'.manager.filterDags ids [] caller).value.toList ∧
      (t'.manager.filterDags ids [] caller).value = ids := by
  intro one all ada ada' zed s s' t t' ids caller
  have hs : ofSettings s = .ok t := by rfl
  have hs' : ofSettings s' = .ok t' := by rfl
  have hada : ada.GrowsTo ada' := ⟨rfl, rfl, List.sublist_cons_self all [one]⟩
  have hgrows : s.GrowsTo s' := ⟨rfl, .cons_right (.cons hada .nil)⟩
  have hold : (t.manager.filterDags ids [] caller).value = .ofList ["etl"] := by rfl
  obtain ⟨-, -, hfilter, -⟩ := grants_only_add hs hs' hgrows
  have hkept := hfilter ids [] caller "etl" (by rw [hold]; decide)
  exact ⟨hs, hs', hgrows, hold, hkept, by rfl⟩

end GrantTable

end AccessGate
