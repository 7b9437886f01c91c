/-
# What registries hold and select

A registry takes an instance unless it holds one with the same id already, whatever their
vendors and priorities are. So no id is ever held twice, and of all calls for one id it is
the first that counts. For a vendor it selects, of the instances that it took, the one with
the least priority, and of several such the one that came first; where priorities differ it
makes no difference in which order instances came.

* `Registry.register_eq_error`, `Registry.register_eq_ok` : what is refused and what is taken;
* `Registry.IsChoice` : the instance with the least pair of priority and position;
* `Registry.select_eq_ok`, `Registry.select_eq_error` : this is what is selected, if anything;
* `Registry.select_perm` : orders that make no difference;
* `Deployment.acceptedCalls` : the calls of a run that are accepted;
* `Deployment.each_id_once_least_selected` : what a registry holds and selects after any
  calls.
-/
import AccessGate.Deployment
import Mathlib.Data.List.Nodup
import Mathlib.Data.Prod.Lex

namespace AccessGate

namespace Registry

variable {r r' : Registry} {i j : Instance} {is js : List Instance} {vendor : String}

/-! ## What is taken -/

/-- A registry refuses an instance exactly if its id is taken. -/
theorem register_eq_error {f : SetupFault} :
    r.register i = .error f ↔ f = .repeatedInstance i.id ∧ ∃ j ∈ r.instances, j.id = i.id := by
  rw [register]
  split
  · next h =>
    have htaken : ∃ j ∈ r.instances, j.id = i.id := by simpa using h
    constructor
    · intro hf
      cases hf
      exact ⟨rfl, htaken⟩
    · rintro ⟨rfl, -⟩
      rfl
  · next h =>
    have hfree : ¬∃ j ∈ r.instances, j.id = i.id := by simpa using h
    simp [hfree]

/-- It takes an instance whose id is free, behind those it has. -/
theorem register_eq_ok :
    r.register i = .ok r' ↔ (∀ j ∈ r.instances, j.id ≠ i.id) ∧ r' = ⟨r.instances ++ [i]⟩ := by
  rw [register]
  split
  · next h =>
    obtain ⟨j, hj, hid⟩ : ∃ j ∈ r.instances, j.id = i.id := by simpa using h
    constructor
    · intro hok
      cases hok
    · rintro ⟨hfree, -⟩
      exact absurd hid (hfree j hj)
  · next h =>
    have hfree : ∀ j ∈ r.instances, j.id ≠ i.id := by simpa using h
    constructor
    · intro hok
      cases hok
      exact ⟨hfree, rfl⟩
    · rintro ⟨-, rfl⟩
      rfl

/-- Whether no id is held twice. -/
def Distinct (r : Registry) : Prop :=
  (r.instances.map (·.id)).Nodup

/-- Taking an instance keeps ids distinct. -/
theorem Distinct.register (hr : r.Distinct) (h : r.register i = .ok r') : r'.Distinct := by
  obtain ⟨hfree, rfl⟩ := register_eq_ok.mp h
  rw [Distinct, List.map_append, List.map_singleton, List.nodup_append]
  refine ⟨hr, by simp, ?_⟩
  intro id hid id' hid'
  obtain ⟨j, hj, rfl⟩ := List.mem_map.mp hid
  rw [List.mem_singleton.mp hid']
  exact hfree j hj

/-! ## The choice -/

/-- Whether an instance is the choice for a vendor among some: it is of this vendor, and of
all that are it has the least pair of priority and position. -/
def IsChoice (is : List Instance) (vendor : String) (i : Instance) : Prop :=
  ∃ n, is[n]? = some i ∧ i.vendor = vendor ∧
    ∀ (m : Nat) (j : Instance), is[m]? = some j → j.vendor = vendor →
      toLex (i.priority, n) ≤ toLex (j.priority, m)

namespace IsChoice

/-- There is no other choice, as there are not two least pairs. -/
theorem unique (h : IsChoice is vendor i) (h' : IsChoice is vendor j) : i = j := by
  obtain ⟨n, hn, hvendor, hleast⟩ := h
  obtain ⟨m, hm, hvendor', hleast'⟩ := h'
  have heq : toLex (i.priority, n) = toLex (j.priority, m) :=
    le_antisymm (hleast m j hm hvendor') (hleast' n i hn hvendor)
  have hposition : n = m := congrArg (fun p => (ofLex p).2) heq
  rw [hposition, hm] at hn
  exact (Option.some.inj hn).symm

/-- No instance of the vendor comes before it in priority. -/
theorem priority_le (h : IsChoice is vendor i) (hj : j ∈ is) (hvendor : j.vendor = vendor) :
    i.priority ≤ j.priority := by
  obtain ⟨n, -, -, hleast⟩ := h
  obtain ⟨m, hm⟩ := List.getElem?_of_mem hj
  rcases Prod.Lex.toLex_le_toLex.mp (hleast m j hm hvendor) with hlt | ⟨heq, -⟩
  · exact Int.le_of_lt hlt
  · exact Int.le_of_eq heq

/-- It stays the choice behind an instance of another vendor, or of greater priority. -/
theorem cons (h : IsChoice is vendor i) (hj : j.vendor = vendor → i.priority < j.priority) :
    IsChoice (j :: is) vendor i := by
  obtain ⟨n, hn, hvendor, hleast⟩ := h
  refine ⟨n + 1, hn, hvendor, ?_⟩
  intro m k hm hk
  rw [Prod.Lex.toLex_le_toLex]
  cases m with
  | zero =>
      cases hm
      exact .inl (hj hk)
  | succ m =>
      -- both positions are one further on
      rcases Prod.Lex.toLex_le_toLex.mp (hleast m k hm hk) with hlt | ⟨heq, hle⟩
      · exact .inl hlt
      · exact .inr ⟨heq, Nat.succ_le_succ hle⟩

/-- The first instance is the choice if it is of the vendor and no later one is less. -/
theorem head (hj : j.vendor = vendor)
    (hleast : ∀ k ∈ is, k.vendor = vendor → j.priority ≤ k.priority) :
    IsChoice (j :: is) vendor j := by
  refine ⟨0, rfl, hj, ?_⟩
  intro m k hm hk
  rw [Prod.Lex.toLex_le_toLex]
  cases m with
  | zero =>
      cases hm
      exact .inr ⟨rfl, Nat.le_refl 0⟩
  | succ m =>
      rcases Int.lt_or_eq_of_le (hleast k (List.mem_of_getElem? hm) hk) with hlt | heq
      · exact .inl hlt
      · exact .inr ⟨heq, Nat.zero_le _⟩

end IsChoice

/-! ## What is selected -/

/-- What a registry selects for a vendor is the choice among its instances. -/
theorem isChoice_of_select? (h : r.select? vendor = some i) : IsChoice r.instances vendor i := by
  obtain ⟨is⟩ := r
  rw [select?] at h
  induction is generalizing i with
  | nil => cases h
  | cons j is ih =>
      by_cases hj : j.vendor = vendor
      · rw [List.filter_cons_of_pos (by simp [hj]), preferred?] at h
        cases hrest : preferred? (is.filter fun k => k.vendor = vendor) with
        | none =>
            -- the first one is the only one of the vendor
            rw [hrest] at h
            cases h
            have hothers := List.filter_eq_nil_iff.mp (preferred?_eq_none.mp hrest)
            refine .head hj ?_
            intro k hk hvendor
            exact absurd (by simpa using hvendor) (hothers k hk)
        | some k =>
            -- it has to stand against the choice among the others
            have hk := ih hrest
            rw [hrest] at h
            by_cases hlt : k.priority < j.priority
            · simp only [hlt, if_true, Option.some.injEq] at h
              subst h
              exact hk.cons fun _ => hlt
            · simp only [hlt, if_false, Option.some.injEq] at h
              subst h
              refine .head hj ?_
              intro l hl hvendor
              exact Int.le_trans (Int.not_lt.mp hlt) (hk.priority_le hl hvendor)
      · rw [List.filter_cons_of_neg (by simp [hj])] at h
        exact (ih h).cons fun hvendor => absurd hvendor hj

/-- What a registry selects is registered in it. -/
theorem mem_of_select? (h : r.select? vendor = some i) : i ∈ r.instances := by
  obtain ⟨n, hn, -⟩ := isChoice_of_select? h
  exact List.mem_of_getElem? hn

/-- A registry selects nothing for a vendor exactly if it has no instance of it. -/
theorem select?_eq_none : r.select? vendor = none ↔ ∀ i ∈ r.instances, i.vendor ≠ vendor := by
  rw [select?, preferred?_eq_none, List.filter_eq_nil_iff]
  simp

/-- **A registry selects the choice for a vendor.** -/
theorem select_eq_ok : r.select vendor = .ok i ↔ IsChoice r.instances vendor i := by
  rw [select]
  cases hselect : r.select? vendor with
  | some j =>
      have hj := isChoice_of_select? hselect
      constructor
      · intro h
        cases h
        exact hj
      · intro hi
        rw [hj.unique hi]
  | none =>
      constructor
      · intro h
        cases h
      · rintro ⟨n, hn, hvendor, -⟩
        exact absurd hvendor (select?_eq_none.mp hselect i (List.mem_of_getElem? hn))

/-- It fails exactly if there is none to choose from. -/
theorem select_eq_error {f : Fault} :
    r.select vendor = .error f ↔
      f = .noPluginAvailable vendor ∧ ∀ i ∈ r.instances, i.vendor ≠ vendor := by
  rw [← select?_eq_none, select]
  cases r.select? vendor with
  | some j => simp
  | none => simp [eq_comm]

/-! ## The order of registering -/

/-- Whether instances of one vendor have different priorities. -/
def Ranked (is : List Instance) : Prop :=
  is.Pairwise fun i j => i.vendor = j.vendor → i.priority ≠ j.priority

/-- Where priorities differ, positions are of no account. -/
theorem isChoice_of_ranked (h : Ranked is) :
    IsChoice is vendor i ↔
      i ∈ is ∧ i.vendor = vendor ∧ ∀ j ∈ is, j.vendor = vendor → i.priority ≤ j.priority := by
  constructor
  · intro hi
    have hleast := fun j (hj : j ∈ is) => hi.priority_le hj
    obtain ⟨n, hn, hvendor, -⟩ := hi
    exact ⟨List.mem_of_getElem? hn, hvendor, hleast⟩
  · rintro ⟨hi, hvendor, hleast⟩
    obtain ⟨before, rest, rfl⟩ := List.append_of_mem hi
    obtain ⟨-, -, hbefore⟩ := List.pairwise_append.mp h
    have hhead : IsChoice (i :: rest) vendor i := by
      refine .head hvendor ?_
      intro j hj
      exact hleast j (List.mem_append_right before (List.mem_cons_of_mem i hj))
    -- those in front of it are no less, and not equal either
    have hfront : ∀ j ∈ before, j.vendor = vendor → i.priority < j.priority := by
      intro j hj hj'
      have hle := hleast j (List.mem_append_left (i :: rest) hj) hj'
      have hne := hbefore j hj i List.mem_cons_self (hj'.trans hvendor.symm)
      omega
    clear hi hleast hbefore h
    induction before with
    | nil => exact hhead
    | cons j before ih =>
        refine IsChoice.cons (ih ?_) (hfront j List.mem_cons_self)
        intro k hk
        exact hfront k (List.mem_cons_of_mem j hk)

/-- **Orders make no difference where priorities differ.** -/
theorem select_perm (hperm : is.Perm js) (h : Ranked is) (vendor : String) :
    (Registry.mk js).select vendor = (Registry.mk is).select vendor := by
  have hjs : Ranked js := by
    refine hperm.pairwise h ?_
    intro i j hne hvendor
    exact (hne hvendor.symm).symm
  have hsame : ∀ i, (Registry.mk is).select vendor = .ok i →
      (Registry.mk js).select vendor = .ok i := by
    intro i hi
    rw [select_eq_ok, isChoice_of_ranked h] at hi
    rw [select_eq_ok, isChoice_of_ranked hjs]
    simpa only [hperm.mem_iff] using hi
  cases hselect : (Registry.mk is).select vendor with
  | ok i => exact hsame i hselect
  | error f =>
      rw [select_eq_error] at hselect
      rw [select_eq_error]
      simpa only [hperm.mem_iff] using hselect

end Registry

namespace Deployment

variable {d : Deployment} {number : Nat} {i : Instance}

/-! ## One call -/

/-- An instance that its registry refuses is not registered. -/
theorem value_register_of_error {f : SetupFault}
    (h : (d.registry number).register i = .error f) :
    ((register number i).run d).value = (.error f, d) := by
  simp [register, h]

/-- An instance that its registry takes is registered there. -/
theorem value_register_of_ok {r : Registry} (h : (d.registry number).register i = .ok r) :
    ((register number i).run d).value =
      (.ok (), { d with registries := d.registries.set number r }) := by
  simp [register, h]

/-- A call is refused exactly if the id is taken in its registry. -/
theorem register_refused_iff :
    (∃ f, ((register number i).run d).value.1 = .error f) ↔
      ∃ j ∈ (d.registry number).instances, j.id = i.id := by
  cases hregister : (d.registry number).register i with
  | error f =>
      rw [value_register_of_error hregister]
      exact ⟨fun _ => (Registry.register_eq_error.mp hregister).2, fun _ => ⟨f, rfl⟩⟩
  | ok r =>
      rw [value_register_of_ok hregister]
      constructor
      · rintro ⟨f, ⟨⟩⟩
      · rintro ⟨j, hj, hid⟩
        exact absurd hid ((Registry.register_eq_ok.mp hregister).1 j hj)

/-- A call that is refused names the id and changes nothing. -/
theorem register_refused {f : SetupFault}
    (h : ((register number i).run d).value.1 = .error f) :
    f = .repeatedInstance i.id ∧ ((register number i).run d).value.2 = d := by
  cases hregister : (d.registry number).register i with
  | error f' =>
      rw [value_register_of_error hregister] at h ⊢
      cases h
      exact ⟨(Registry.register_eq_error.mp hregister).1, rfl⟩
  | ok r =>
      rw [value_register_of_ok hregister] at h
      cases h

/-- A registry that is put in the place of another one is found there. -/
theorem registry_set (h : number < d.registries.length) (r : Registry) :
    ({ d with registries := d.registries.set number r } : Deployment).registry number = r := by
  simp [registry, h]

/-! ## A run of calls -/

/-- The deployment after some calls to register instances, one after another. -/
def afterCalls (number : Nat) (d : Deployment) (calls : List Instance) : Deployment :=
  calls.foldl (fun d i => ((register number i).run d).value.2) d

/-- Those of some calls that are accepted, in order. -/
def acceptedCalls (number : Nat) (d : Deployment) : List Instance → List Instance
  | [] => []
  | i :: calls =>
      match ((register number i).run d).value with
      | (.ok (), d') => i :: acceptedCalls number d' calls
      | (.error _, d') => acceptedCalls number d' calls

variable {calls : List Instance}

/-- **A registry holds what it held and the calls that it accepted**, in order and each id
once. -/
theorem instances_afterCalls (hnumber : number < d.registries.length)
    (hdistinct : (d.registry number).Distinct) (calls : List Instance) :
    ((d.afterCalls number calls).registry number).instances =
        (d.registry number).instances ++ d.acceptedCalls number calls ∧
      ((d.afterCalls number calls).registry number).Distinct := by
  induction calls generalizing d with
  | nil => exact ⟨(List.append_nil _).symm, hdistinct⟩
  | cons i calls ih =>
      rw [afterCalls, List.foldl_cons, ← afterCalls, acceptedCalls]
      cases hregister : (d.registry number).register i with
      | error f =>
          rw [value_register_of_error hregister]
          exact ih hnumber hdistinct
      | ok r =>
          rw [value_register_of_ok hregister]
          let next : Deployment := { d with registries := d.registries.set number r }
          have hr : next.registry number = r := registry_set hnumber r
          have hnext : (next.registry number).Distinct := by
            rw [hr]
            exact hdistinct.register hregister
          obtain ⟨hinstances, hafter⟩ := ih (d := next) (by simpa [next] using hnumber) hnext
          refine ⟨?_, hafter⟩
          obtain ⟨-, rfl⟩ := Registry.register_eq_ok.mp hregister
          rw [hinstances, hr, List.append_assoc, List.singleton_append]

/-- Calls with distinct ids that are free are all accepted. -/
theorem acceptedCalls_eq_self (hnumber : number < d.registries.length)
    (hfree : ∀ i ∈ calls, ∀ j ∈ (d.registry number).instances, j.id ≠ i.id)
    (h : (calls.map (·.id)).Nodup) : d.acceptedCalls number calls = calls := by
  induction calls generalizing d with
  | nil => rfl
  | cons i calls ih =>
      rw [List.map_cons, List.nodup_cons] at h
      obtain ⟨hi, hcalls⟩ := h
      have hregister := Registry.register_eq_ok.mpr ⟨hfree i List.mem_cons_self, rfl⟩
      rw [acceptedCalls, value_register_of_ok hregister]
      refine congrArg (i :: ·) (ih (by simpa using hnumber) ?_ hcalls)
      intro k hk j hj
      rw [registry_set hnumber] at hj
      rcases List.mem_append.mp hj with hj | hj
      · exact hfree k (List.mem_cons_of_mem i hk) j hj
      · rw [List.mem_singleton.mp hj]
        intro hid
        exact hi (hid ▸ List.mem_map_of_mem hk)

/-- A registry that is empty holds exactly the calls with distinct ids. -/
theorem registry_afterCalls_of_nodup (hnumber : number < d.registries.length)
    (hempty : d.registry number = .empty) (h : (calls.map (·.id)).Nodup) :
    (d.afterCalls number calls).registry number = ⟨calls⟩ := by
  have hdistinct : (d.registry number).Distinct := by
    rw [hempty]
    exact List.nodup_nil
  have hfree : ∀ i ∈ calls, ∀ j ∈ (d.registry number).instances, j.id ≠ i.id := by
    rw [hempty]
    rintro i - j ⟨⟩
  have hinstances := (instances_afterCalls hnumber hdistinct calls).1
  rw [acceptedCalls_eq_self hnumber hfree h, hempty] at hinstances
  exact congrArg Registry.mk hinstances

/-! ## A new registry -/

/-- A new registry has a number of its own and is empty. -/
theorem value_newRegistry (d : Deployment) :
    (newRegistry.run d).value =
      (d.registries.length, { d with registries := d.registries ++ [Registry.empty] }) := by
  simp [newRegistry]

/-- **A registry over any calls.** After any calls on a new registry, a further one is
refused exactly if an instance with its id was accepted before, and then it changes
nothing. The ids of the accepted instances are distinct, over all vendors, and as many as the
registry counts. For a vendor the registry selects, of the accepted instances of this very
vendor, the one with the least pair of priority and position, and fails exactly if there is
none. So if ids are distinct, and priorities are for each vendor, then nothing depends on
the order of the calls. -/
theorem each_id_once_least_selected (d : Deployment) (calls : List Instance) :
    let number := (newRegistry.run d).value.1
    let start := (newRegistry.run d).value.2
    let here := start.afterCalls number calls
    let accepted := start.acceptedCalls number calls
    (∀ i,
        ((∃ f, ((register number i).run here).value.1 = .error f) ↔
          ∃ j ∈ accepted, j.id = i.id) ∧
        ∀ f, ((register number i).run here).value.1 = .error f →
          f.fault =
              .invalidConfiguration ("plugin instance '" ++ i.id ++ "' is already registered") ∧
            ((register number i).run here).value.2 = here) ∧
      (accepted.map (·.id)).Nodup ∧
      (here.registry number).size = accepted.length ∧
      (∀ vendor i, (here.registry number).select vendor = .ok i ↔
        Registry.IsChoice accepted vendor i) ∧
      (∀ vendor f, (here.registry number).select vendor = .error f ↔
        f = .noPluginAvailable vendor ∧ ∀ i ∈ accepted, i.vendor ≠ vendor) ∧
      ∀ calls', calls.Perm calls' → (calls.map (·.id)).Nodup → Registry.Ranked calls →
        ∀ vendor, ((start.afterCalls number calls').registry number).select vendor =
          (here.registry number).select vendor := by
  rw [value_newRegistry]
  intro number start here accepted
  have hnumber : number < start.registries.length := by simp [number, start]
  have hempty : start.registry number = .empty := by simp [number, start, registry]
  have hstart : (start.registry number).Distinct := by
    rw [hempty]
    exact List.nodup_nil
  obtain ⟨hinstances, hdistinct⟩ := instances_afterCalls hnumber hstart calls
  rw [hempty] at hinstances
  change (here.registry number).instances = accepted at hinstances
  refine ⟨?_, ?_, ?_, ?_, ?_, ?_⟩
  · intro i
    refine ⟨?_, ?_⟩
    · rw [register_refused_iff, hinstances]
    · intro f hf
      obtain ⟨rfl, hhere⟩ := register_refused hf
      exact ⟨rfl, hhere⟩
  · rw [Registry.Distinct, hinstances] at hdistinct
    exact hdistinct
  · rw [Registry.size, hinstances]
  · intro vendor i
    rw [Registry.select_eq_ok, hinstances]
  · intro vendor f
    rw [Registry.select_eq_error, hinstances]
  · intro calls' hperm hids hranked vendor
    have hids' : (calls'.map (·.id)).Nodup := (hperm.map _).nodup hids
    rw [registry_afterCalls_of_nodup hnumber hempty hids',
      registry_afterCalls_of_nodup hnumber hempty hids]
    exact Registry.select_perm hperm hranked vendor

/-- Two instances of one vendor and one of another are registered. An instance that would be
preferred comes too late, as its id is taken; the one of lesser priority is selected, and
would be if they had come in another order. -/
theorem each_id_once_least_selected_any_order :
    let api : Api := .client ⟨0, 0, "inner", none⟩
    let a : Instance := ⟨"a", "acme", 7, api⟩
    let b : Instance := ⟨"b", "acme", -3, api⟩
    let c : Instance := ⟨"c", "third", -9, api⟩
    let late : Instance := ⟨"c", "acme", -32768, api⟩
    let start : Deployment := (newRegistry.run {}).value.2
    let here := start.afterCalls 1 [a, b, c]
    (∃ f, ((register 1 late).run here).value.1 = .error f) ∧
      Registry.IsChoice [a, b, c] "acme" b ∧
      (here.registry 1).select "acme" = .ok b ∧
      ((start.afterCalls 1 [c, b, a]).registry 1).select "acme" = .ok b := by
  intro api a b c late start here
  obtain ⟨hcall, -, -, hselect, -, hperm⟩ := each_id_once_least_selected {} [a, b, c]
  have hb : (here.registry 1).select "acme" = .ok b := by rfl
  have horder : ((start.afterCalls 1 [c, b, a]).registry 1).select "acme" =
      (here.registry 1).select "acme" :=
    hperm [c, b, a] (List.reverse_perm [a, b, c]).symm (by decide)
      (by simp [Registry.Ranked, a, b, c]) "acme"
  refine ⟨(hcall late).1.mpr ⟨c, ?_, rfl⟩, (hselect "acme" b).mp hb, hb, horder.trans hb⟩
  show c ∈ [a, b, c]
  simp

end Deployment

end AccessGate
