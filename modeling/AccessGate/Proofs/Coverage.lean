/-
# Wider and narrower checks

A check can be narrowed: to one instance, to one part of a DAG, or to both. Whoever is
allowed the wider check is allowed the narrower one, because a grant that covers a check
without an instance or a part has no such restriction itself. The DAG filter lives on
this when it lets one blanket permission stand for all ids.

* `Grant.covers_of_narrows`, `GrantTable.allows_of_narrows` : narrowing keeps what is
  allowed;
* `GrantTable.mem_filterDags`, `GrantTable.mem_filterDags_iff` : the DAG filter of the static
  backend keeps the ids that are allowed one by one.
-/
import AccessGate.Manager.Static
import AccessGate.Proofs.Derived

namespace AccessGate

/-! ## Narrowing -/

/-- Whether `d` asks for no more than `c`: it is about the same resource and action, and
keeps the instance and the part that `c` names. -/
structure Check.Narrows (d c : Check) : Prop where
  resource : d.resource = c.resource
  action : d.action = c.action
  scope : c.scope = none ∨ d.scope = c.scope
  part : c.part = none ∨ d.part = c.part

/-- A check of a record without details is narrowed by any details. -/
theorem Check.narrows_ofDetails_none {k : RecordKind} (a : Action) (details : Option (Details k)) :
    (Check.ofDetails k a details).Narrows (.ofDetails k a none) where
  resource := rfl
  action := rfl
  scope := .inl rfl
  part := .inl rfl

/-- A restriction that admits no particular thing admits everything. -/
theorem Grant.admits_of_narrows {α : Type} [DecidableEq α] {restriction asked asked' : Option α}
    (h : asked = none ∨ asked' = asked) (hc : Grant.admits restriction asked = true) :
    Grant.admits restriction asked' = true := by
  cases restriction with
  | none => rfl
  | some r =>
      rw [Grant.admits_some, decide_eq_true_eq] at hc ⊢
      rcases h with h | h
      · rw [h] at hc
        cases hc
      · rw [h, hc]

/-- **Narrowing keeps coverage.** -/
theorem Grant.covers_of_narrows {g : Grant} {c d : Check} (h : d.Narrows c)
    (hc : g.covers c = true) : g.covers d = true := by
  rw [Grant.covers] at hc ⊢
  simp only [Bool.and_eq_true, decide_eq_true_eq] at hc ⊢
  obtain ⟨⟨⟨hresource, haction⟩, hscope⟩, hpart⟩ := hc
  refine ⟨⟨⟨?_, ?_⟩, ?_⟩, ?_⟩
  · rw [h.resource, hresource]
  · rw [h.action, haction]
  · exact Grant.admits_of_narrows h.scope hscope
  · exact Grant.admits_of_narrows h.part hpart

namespace GrantTable

/-- What a table allows it allows narrowed, in either mode. -/
theorem allows_of_narrows {t : GrantTable} {c d : Check} (h : d.Narrows c)
    {caller : Option Subject} (hc : t.allows c caller = true) : t.allows d caller = true := by
  cases caller with
  | none => cases hc
  | some s =>
      rw [allows] at hc ⊢
      cases hmode : t.mode with
      | allowAll => rfl
      | staticGrants =>
          rw [hmode] at hc
          obtain ⟨g, hg, hcovers⟩ := List.any_eq_true.mp hc
          exact List.any_eq_true.mpr ⟨g, hg, Grant.covers_of_narrows h hcovers⟩

/-! ## The DAG filter -/

/-- The filter keeps an id that it is given if this is allowed by itself for one of the wanted
methods. -/
theorem mem_filterDags (t : GrantTable) (ids : DagIds) (methods : List Method)
    (caller : Option Subject) (id : String) :
    id ∈ (t.manager.filterDags ids methods caller).value.toList ↔
      id ∈ ids.toList ∧ ∃ w ∈ Derived.wanted methods,
        (t.manager.check ⟨.record .dag w (some (.ofId id)), caller⟩).value = true := by
  -- who is allowed the question without details is allowed the one about the id
  have hnarrow : ∀ w : Method,
      (t.backend.check ⟨.record .dag w none, caller⟩).value = true →
        (t.backend.check ⟨.record .dag w (some (.ofId id)), caller⟩).value = true := by
    intro w hw
    exact allows_of_narrows (Check.narrows_ofDetails_none (.standard w) _) hw
  refine (Derived.mem_filterDags t.backend.check ids methods caller id).trans ?_
  constructor
  · rintro ⟨hid, ⟨w, hw, hall⟩ | hone⟩
    · exact ⟨hid, w, hw, hnarrow w hall⟩
    · exact ⟨hid, hone⟩
  · rintro ⟨hid, hone⟩
    exact ⟨hid, .inr hone⟩

/-- **The blanket answer of the DAG filter only saves questions.** On the static backend
the filter keeps exactly the ids that are allowed one by one for `GET` or `PUT`,
whichever is listed. -/
theorem mem_filterDags_iff (t : GrantTable) (ids : DagIds) (methods : List Method)
    (caller : Option Subject) (id : String) :
    id ∈ (t.manager.filterDags ids methods caller).value.toList ↔
      id ∈ ids.toList ∧ ∃ w, (w = .get ∨ w = .put) ∧ (methods = [] ∨ w ∈ methods) ∧
        (t.manager.check ⟨.record .dag w (some (.ofId id)), caller⟩).value = true := by
  rw [mem_filterDags]
  simp only [Derived.mem_wanted, and_assoc]

end GrantTable

end AccessGate
