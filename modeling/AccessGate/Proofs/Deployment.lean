/-
# Deployments that a program can come to

A program starts with an empty registry and then makes registries and services,
registers apis that it has, and lets services select. What all its deployments have in
common is that an api which is registered or selected belongs to the deployment: a
client's service was made in it.

* `Deployment.value_register`, `Deployment.value_select` : what registering and selecting
  can do;
* `Deployment.Reachable` : the deployments that a program can come to;
* `Deployment.Reachable.sound` : they are sound;
* `Deployment.Reachable.managerWithin` : following selections leads to no others.
-/
import AccessGate.Proofs.Registry

namespace AccessGate

namespace Deployment

/-! ## What steps do -/

/-- Registering changes nothing, or adds the instance to its registry. -/
theorem value_register (number : Nat) (i : Instance) (d : Deployment) :
    ((register number i).run d).value.2 = d ∨
      ((register number i).run d).value.2 =
        { d with
          registries := d.registries.set number ⟨(d.registry number).instances ++ [i]⟩ } := by
  cases hr : (d.registry number).register i with
  | error fault =>
      left
      simp [register, hr]
  | ok r =>
      right
      have hinstances : r = ⟨(d.registry number).instances ++ [i]⟩ := by
        rw [Registry.register] at hr
        split at hr
        · cases hr
        · cases hr
          rfl
      simp [register, hr, hinstances]

/-- The instances of the registry of a number are those of one of the registries. -/
theorem exists_registry_of_mem {d : Deployment} {number : Nat} {i : Instance}
    (hi : i ∈ (d.registry number).instances) : ∃ r ∈ d.registries, i ∈ r.instances := by
  rw [registry] at hi
  cases hr : d.registries[number]? with
  | none =>
      rw [hr] at hi
      cases hi
  | some r =>
      rw [hr] at hi
      exact ⟨r, List.mem_of_getElem? hr, hi⟩

/-- What a service has selected is one of the selections. -/
theorem mem_of_selected? {d : Deployment} {s : Service} {api : Api}
    (h : d.selected? s = some api) : (s.number, api) ∈ d.selections := by
  obtain ⟨before, after, hselections, -⟩ := List.lookup_eq_some_iff.mp h
  rw [hselections]
  exact List.mem_append_right before List.mem_cons_self

/-- Selecting gives what was selected before; or nothing, as there is nothing; or what it
selects now, which is registered. -/
theorem value_select (s : Service) (d : Deployment) :
    (∃ api, d.selected? s = some api ∧ ((select s).run d).value = (some api, d)) ∨
      ((select s).run d).value = (none, d) ∨
        ∃ i ∈ (d.registry s.registry).instances,
          ((select s).run d).value =
            (some i.api, { d with selections := d.selections ++ [(s.number, i.api)] }) := by
  cases hselected : d.selected? s with
  | some api =>
      left
      exact ⟨api, rfl, by simp [select, hselected]⟩
  | none =>
      right
      cases hr : (d.registry s.registry).select? s.vendor with
      | none =>
          left
          simp [select, hselected, hr]
      | some i =>
          right
          exact ⟨i, Registry.mem_of_select? hr, by simp [select, hselected, hr]⟩

/-! ## Sound deployments -/

/-- Whether an api belongs to a deployment: a client's service has to be made in it. -/
def Knows (d : Deployment) : Api → Prop
  | .direct _ => True
  | .client s => s.number < d.services

/-- A deployment is sound if it knows every api that is registered or selected, and only
services made in it have selected. -/
structure Sound (d : Deployment) : Prop where
  registered : ∀ r ∈ d.registries, ∀ i ∈ r.instances, d.Knows i.api
  selecting : ∀ p ∈ d.selections, p.1 < d.services
  selected : ∀ p ∈ d.selections, d.Knows p.2

/-- What is known stays known when there are more services. -/
theorem Knows.mono {d d' : Deployment} {api : Api} (h : d.Knows api)
    (hle : d.services ≤ d'.services) : d'.Knows api := by
  cases api with
  | direct m => trivial
  | client s => exact Nat.lt_of_lt_of_le h hle

namespace Sound

variable {d : Deployment}

/-- A sound deployment knows the instances of each of its registries. -/
theorem knows_instance (hd : d.Sound) {number : Nat} {i : Instance}
    (hi : i ∈ (d.registry number).instances) : d.Knows i.api := by
  obtain ⟨r, hr, hi⟩ := exists_registry_of_mem hi
  exact hd.registered r hr i hi

/-- Registering an api that is known keeps a deployment sound. -/
theorem register (hd : d.Sound) (number : Nat) {i : Instance} (hi : d.Knows i.api) :
    ((register number i).run d).value.2.Sound := by
  rcases value_register number i d with h | h
  · rw [h]
    exact hd
  · rw [h]
    refine ⟨?_, hd.selecting, hd.selected⟩
    intro r hr j hj
    rcases List.mem_or_eq_of_mem_set hr with hr | rfl
    · exact hd.registered r hr j hj
    · rcases List.mem_append.mp hj with hj | hj
      · exact hd.knows_instance hj
      · rw [List.mem_singleton.mp hj]
        exact hi

/-- Selecting for a service of the deployment keeps it sound. -/
theorem select (hd : d.Sound) {s : Service} (hs : s.number < d.services) :
    ((select s).run d).value.2.Sound := by
  rcases value_select s d with ⟨api, -, h⟩ | h | ⟨i, hi, h⟩
  · rw [h]
    exact hd
  · rw [h]
    exact hd
  · rw [h]
    refine ⟨hd.registered, ?_, ?_⟩
    · intro p hp
      rcases List.mem_append.mp hp with hp | hp
      · exact hd.selecting p hp
      · rw [List.mem_singleton.mp hp]
        exact hs
    · intro p hp
      rcases List.mem_append.mp hp with hp | hp
      · exact hd.selected p hp
      · rw [List.mem_singleton.mp hp]
        exact hd.knows_instance hi

/-- What is selected for a service of a sound deployment is known afterwards. -/
theorem knows_select (hd : d.Sound) {s : Service} {api : Api}
    (h : ((Deployment.select s).run d).value.1 = some api) :
    ((Deployment.select s).run d).value.2.Knows api := by
  rcases value_select s d with ⟨api', hselected, hv⟩ | hv | ⟨i, hi, hv⟩
  · rw [hv] at h ⊢
    cases h
    exact hd.selected _ (mem_of_selected? hselected)
  · rw [hv] at h
    cases h
  · rw [hv] at h ⊢
    cases h
    exact (hd.knows_instance hi).mono (Nat.le_refl d.services)

end Sound

/-! ## Reachable deployments -/

/-- The deployments that a program can come to. -/
inductive Reachable : Deployment → Prop where
  | start : Reachable {}
  | newRegistry {d : Deployment} : Reachable d → Reachable (newRegistry.run d).value.2
  | register {d : Deployment} (number : Nat) {i : Instance} :
      Reachable d → d.Knows i.api → Reachable ((register number i).run d).value.2
  | newService {d : Deployment} (registry : Nat) (s : GatewaySettings) :
      Reachable d → Reachable ((newService registry s).run d).value.2
  | select {d : Deployment} {s : Service} :
      Reachable d → s.number < d.services → Reachable ((select s).run d).value.2

namespace Reachable

variable {d : Deployment}

/-- **Every deployment of a program is sound.** -/
theorem sound (hd : d.Reachable) : d.Sound := by
  induction hd with
  | start =>
      refine ⟨?_, ?_, ?_⟩ <;> simp [Registry.empty]
  | @newRegistry d _ ih =>
      have hv : (Deployment.newRegistry.run d).value.2 =
          { d with registries := d.registries ++ [Registry.empty] } := by
        simp [Deployment.newRegistry]
      rw [hv]
      refine ⟨?_, ih.selecting, ih.selected⟩
      intro r hr i hi
      rcases List.mem_append.mp hr with hr | hr
      · exact ih.registered r hr i hi
      · rw [List.mem_singleton.mp hr] at hi
        cases hi
  | register number _ hi ih => exact ih.register number hi
  | @newService d registry s _ ih =>
      have hv : ((Deployment.newService registry s).run d).value.2 =
          { d with services := d.services + 1 } := by
        simp [Deployment.newService]
      rw [hv]
      refine ⟨?_, ?_, ?_⟩
      · intro r hr i hi
        exact (ih.registered r hr i hi).mono (Nat.le_succ d.services)
      · intro p hp
        exact Nat.lt_succ_of_lt (ih.selecting p hp)
      · intro p hp
        exact (ih.selected p hp).mono (Nat.le_succ d.services)
  | select _ hs ih => exact ih.select hs

/-- **Following selections leads from reachable deployments to reachable ones.** -/
theorem managerWithin (steps : Nat) (hd : d.Reachable) {api : Api} (hapi : d.Knows api) :
    ((managerWithin steps api).run d).value.2.Reachable := by
  induction steps generalizing d api with
  | zero => cases api <;> exact hd
  | succ steps ih =>
      cases api with
      | direct m => exact hd
      | client s =>
          have hselect := hd.select hapi
          have hknows := @Sound.knows_select d hd.sound s
          rw [Deployment.managerWithin]
          simp only [StateT.run_bind, Run.value_bind]
          -- the way ends here if nothing is selected, and goes on from what is selected otherwise
          cases hv : ((Deployment.select s).run d).value with
          | mk selected d' =>
              rw [hv] at hselect hknows
              cases selected with
              | none => exact hselect
              | some next => simpa using ih hselect (hknows rfl)

end Reachable

end Deployment

end AccessGate
