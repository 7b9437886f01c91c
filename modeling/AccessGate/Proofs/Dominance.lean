/-
# Coarser and finer questions

Whoever is allowed to act on all instances may act on each, and whoever is allowed to see a
whole DAG may see each of its parts. So one question dominates another if the other one asks
for the same, only of an instance or a part where the first one names none. This holds in every
table. And it is all that holds in every table: if a question asks for anything else, then there
are settings that allow the one and not the other.

* `Question.Narrows` : a question that asks for no more than another one;
* `Question.Dominates` : a question whose permission includes that of another one;
* `Question.answers_rule` : the rule that allows what a question asks for and nothing besides;
* `GrantTable.dominates_iff_narrows` : coarser permissions dominate, and no others do.
-/
import AccessGate.Proofs.Coverage
import AccessGate.Proofs.FirstFault
import AccessGate.Proofs.Permission

namespace AccessGate

namespace Question

/-! ## Narrower questions -/

/-- Whether `q'` asks for no more than `q`: the same action on the same kind of resource, and
for the instance and the part that `q` names. Where `q` names none, `q'` may. -/
structure Narrows (q' q : Question) : Prop where
  resource : q'.resource = q.resource
  action : q'.action = q.action
  scope : q.scope = none ∨ q'.scope = q.scope
  part : q.part = none ∨ q'.part = q.part

/-- Questions are narrowed as the checks are that they stand for. -/
theorem narrows_iff_check {q q' : Question} : q'.Narrows q ↔ q'.check.Narrows q.check := by
  rw [check_eq, check_eq]
  constructor
  · rintro ⟨hresource, haction, hscope, hpart⟩
    exact ⟨hresource, haction, hscope, hpart⟩
  · rintro ⟨hresource, haction, hscope, hpart⟩
    exact ⟨hresource, haction, hscope, hpart⟩

/-- Any details narrow the question without details. -/
theorem narrows_without_details {k : RecordKind} (m : Method) (details : Option (Details k)) :
    (record k m details).Narrows (record k m none) where
  resource := rfl
  action := rfl
  scope := .inl rfl
  part := by cases k <;> exact .inl rfl

/-- Whether every table of settings that allows `q` to somebody allows `q'` as well. -/
def Dominates (q q' : Question) : Prop :=
  ∀ s t, GrantTable.ofSettings s = .ok t → ∀ caller,
    (t.manager.check ⟨q, caller⟩).value = true → (t.manager.check ⟨q', caller⟩).value = true

/-! ## The rule of a question -/

/-- The rule that allows just what a question asks for. -/
def rule (q : Question) : GrantSettings :=
  ⟨q.resource, [q.action], q.scope, q.part⟩

/-- The questions of the contract ask for nothing that a rule cannot allow: only DAGs are asked
about in parts, and only custom views with words of their own. -/
theorem sound_rule (q : Question) : q.rule.Sound where
  methods := List.cons_ne_nil q.action []
  part := by
    intro hpart
    cases q with
    | record k m details =>
        cases k with
        | dag => rfl
        | _ => exact absurd rfl hpart
    | view v => exact absurd rfl hpart
    | customView a name => exact absurd rfl hpart
  standard := by
    intro hresource a ha
    rw [List.mem_singleton.mp ha]
    cases q with
    | record k m details => rfl
    | view v => rfl
    | customView a name => exact absurd rfl hresource

/-- **The rule of a question answers the narrower ones**, and no others. -/
theorem answers_rule {q q' : Question} : q.rule.Answers (· = ·) q' ↔ q'.Narrows q := by
  constructor
  · rintro ⟨hresource, ⟨a, ha, haction⟩, hscope, hpart⟩
    have hq : q.action = q'.action := (List.mem_singleton.mp ha).symm.trans haction
    exact ⟨hresource.symm, hq.symm, hscope.imp id Eq.symm, hpart.imp id Eq.symm⟩
  · rintro ⟨hresource, haction, hscope, hpart⟩
    exact ⟨hresource.symm, ⟨q.action, List.mem_singleton.mpr rfl, haction.symm⟩,
      hscope.imp id Eq.symm, hpart.imp id Eq.symm⟩

/-- Settings with one subject who has no other rule than that of a question. -/
def settings (q : Question) : StaticSettings :=
  { mode := .staticGrants, subjects := [{ name := defaultSubject, grants := [q.rule] }] }

theorem sound_settings (q : Question) : q.settings.Sound where
  subjects := by
    refine ⟨?_, List.nodup_singleton defaultSubject⟩
    intro e he g hg
    rw [List.mem_singleton.mp he] at hg
    rw [List.mem_singleton.mp hg]
    exact q.sound_rule
  signedIn := by
    rintro name ⟨⟩

/-- This subject is permitted the narrower questions, and no others. -/
theorem permits_settings {q q' : Question} :
    q.settings.Permits (· = ·) q' (some (.withoutId defaultSubject)) ↔ q'.Narrows q := by
  rw [← answers_rule]
  constructor
  · rintro ⟨c, -, hmode | ⟨e, he, -, g, hg, h⟩⟩
    · cases hmode
    · rw [List.mem_singleton.mp he] at hg
      rwa [List.mem_singleton.mp hg] at h
  · intro h
    exact ⟨_, rfl, .inr ⟨_, List.mem_singleton.mpr rfl, ⟨rfl, .inl rfl⟩, q.rule,
      List.mem_singleton.mpr rfl, h⟩⟩

end Question

namespace GrantTable

/-! ## Dominance -/

/-- **A coarser permission dominates.** Whoever is allowed a check under some settings is
allowed every narrower one. So a question dominates another one exactly if that one is
narrower, and a question without details dominates the one with any details. -/
theorem dominates_iff_narrows :
    (∀ (t : GrantTable) (c d : Check), d.Narrows c → ∀ caller, t.allows c caller = true →
        t.allows d caller = true) ∧
      (∀ q q' : Question, q.Dominates q' ↔ q'.Narrows q) ∧
      ∀ (k : RecordKind) (m : Method) (details : Option (Details k)),
        (Question.record k m none).Dominates (.record k m details) := by
  have hnarrows : ∀ q q' : Question, q'.Narrows q → q.Dominates q' := by
    intro q q' h s t _ caller hq
    exact allows_of_narrows (Question.narrows_iff_check.mp h) hq
  refine ⟨?_, ?_, ?_⟩
  · intro t c d h caller hc
    exact allows_of_narrows h hc
  · intro q q'
    refine ⟨?_, hnarrows q q'⟩
    intro h
    -- in the table of the question's own rule only what is narrower is allowed
    obtain ⟨t, ht⟩ := exists_ofSettings_iff.mpr q.sound_settings
    have hself : q.Narrows q := ⟨rfl, rfl, .inr rfl, .inr rfl⟩
    have hq := (allows_iff ht q _).mpr (Question.permits_settings.mpr hself)
    have hq' := h q.settings t ht (some (.withoutId defaultSubject)) hq
    exact Question.permits_settings.mp ((allows_iff ht q' _).mp hq')
  · intro k m details
    exact hnarrows _ _ (Question.narrows_without_details m details)

end GrantTable

end AccessGate
