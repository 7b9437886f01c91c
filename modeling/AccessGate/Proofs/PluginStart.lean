/-
# Starting the static plugin again and again

A plugin keeps the first table it builds and registers it. Its start can fail at three
places: the settings are refused, a table is kept already, or the id to register under is
taken. The first two come before anything is kept, so such a start might as well not have
been made. The third comes after: the table stays, unregistered, and the plugin never
starts again.

* `StaticPlugin.Scene` : a plugin in the deployment that it registers in;
* `StaticPlugin.Scene.started` : all that a start can come to;
* `StaticPlugin.Scene.answers_of_table` : a plugin with a table refuses every start;
* `StaticPlugin.Scene.failed_start_changes_nothing` : what a start that fails leaves behind.
-/
import AccessGate.Proofs.Registry
import AccessGate.StaticPlugin

namespace AccessGate

namespace StaticPlugin

/-- The instance that the static plugin registers for a table. -/
def instanceOf (s : StaticSettings) (t : GrantTable) : Instance :=
  ⟨instanceId s.vendor, s.vendor, s.priority, .direct t.manager⟩

/-! ## Attempts to start -/

/-- A plugin in the deployment that it registers in. -/
structure Scene where
  plugin : StaticPlugin
  deployment : Deployment

/-- A call of the plugin's start: the registry to register in, and the settings. -/
structure Attempt where
  registry : Nat
  settings : StaticSettings

namespace Scene

/-- What an attempt answers. -/
def answer (w : Scene) (a : Attempt) : Except StartupFault GrantTable :=
  (((start a.registry a.settings).run w.plugin).run w.deployment).value.1.1

/-- The scene after an attempt. -/
def next (w : Scene) (a : Attempt) : Scene :=
  let after := (((start a.registry a.settings).run w.plugin).run w.deployment).value
  ⟨after.1.2, after.2⟩

/-- What some attempts answer, one after another. -/
def answers (w : Scene) : List Attempt → List (Except StartupFault GrantTable)
  | [] => []
  | a :: as => w.answer a :: answers (w.next a) as

/-- What an attempt can come to: its answer, and the scene afterwards. -/
inductive Started (w : Scene) (a : Attempt) : Except StartupFault GrantTable → Scene → Prop where
  /-- The settings describe no table. -/
  | refused {f : SetupFault} :
      GrantTable.ofSettings a.settings = .error f → Started w a (.error (.fault f.fault)) w
  /-- The plugin has a table. -/
  | repeated {t kept : GrantTable} :
      GrantTable.ofSettings a.settings = .ok t → w.plugin.table = some kept →
        Started w a (.error .alreadyStarted) w
  /-- The table is kept, and cannot be registered. -/
  | stranded {t : GrantTable} :
      GrantTable.ofSettings a.settings = .ok t → w.plugin.table = none →
        (∃ i ∈ (w.deployment.registry a.registry).instances,
          i.id = instanceId a.settings.vendor) →
        Started w a
          (.error (.fault (SetupFault.repeatedInstance (instanceId a.settings.vendor)).fault))
          { w with plugin := ⟨some t⟩ }
  /-- The table is kept and registered. -/
  | registered {t : GrantTable} {r : Registry} :
      GrantTable.ofSettings a.settings = .ok t → w.plugin.table = none →
        (w.deployment.registry a.registry).register (instanceOf a.settings t) = .ok r →
        Started w a (.ok t)
          ⟨⟨some t⟩,
            { w.deployment with registries := w.deployment.registries.set a.registry r }⟩

/-- **All that an attempt can come to.** -/
theorem started (w : Scene) (a : Attempt) : Started w a (w.answer a) (w.next a) := by
  rw [answer, next]
  cases htable : GrantTable.ofSettings a.settings with
  | error f =>
      have hvalue : (((start a.registry a.settings).run w.plugin).run w.deployment).value =
          ((.error (.fault f.fault), w.plugin), w.deployment) := by
        simp [start, htable]
      rw [hvalue]
      exact .refused htable
  | ok t =>
      cases hkept : w.plugin.table with
      | some kept =>
          have hvalue : (((start a.registry a.settings).run w.plugin).run w.deployment).value =
              ((.error .alreadyStarted, w.plugin), w.deployment) := by
            simp [start, htable, hkept]
          rw [hvalue]
          exact .repeated htable hkept
      | none =>
          cases hregister :
              (w.deployment.registry a.registry).register (instanceOf a.settings t) with
          | error f =>
              have hrun := Deployment.value_register_of_error hregister
              have hvalue :
                  (((start a.registry a.settings).run w.plugin).run w.deployment).value =
                    ((.error (.fault f.fault), ⟨some t⟩), w.deployment) := by
                rw [instanceOf] at hrun
                simp [start, htable, hkept, hrun]
              obtain ⟨rfl, htaken⟩ := Registry.register_eq_error.mp hregister
              rw [hvalue]
              exact .stranded htable hkept htaken
          | ok r =>
              have hrun := Deployment.value_register_of_ok hregister
              have hvalue :
                  (((start a.registry a.settings).run w.plugin).run w.deployment).value =
                    ((.ok t, ⟨some t⟩), { w.deployment with
                      registries := w.deployment.registries.set a.registry r }) := by
                rw [instanceOf] at hrun
                simp [start, htable, hkept, hrun]
              rw [hvalue]
              exact .registered htable hkept hregister

/-! ## Attempts that fail -/

variable {w : Scene} {a : Attempt}

/-- An attempt on a plugin that has a table changes nothing and fails. -/
theorem next_of_table (h : w.plugin.table ≠ none) (a : Attempt) :
    w.next a = w ∧ ∃ fault, w.answer a = .error fault := by
  have hstarted := started w a
  generalize hanswer : w.answer a = answer at hstarted
  generalize hnext : w.next a = after at hstarted
  cases hstarted with
  | refused htable => exact ⟨rfl, _, rfl⟩
  | repeated htable hkept => exact ⟨rfl, _, rfl⟩
  | stranded htable hkept htaken => exact absurd hkept h
  | registered htable hkept hregister => exact absurd hkept h

/-- **A plugin with a table refuses every start**, however often it is tried. -/
theorem answers_of_table (h : w.plugin.table ≠ none) (as : List Attempt) :
    ∀ r ∈ w.answers as, ∃ fault, r = .error fault := by
  induction as with
  | nil =>
      intro r hr
      cases hr
  | cons a as ih =>
      obtain ⟨hnext, hfault⟩ := next_of_table h a
      intro r hr
      rw [answers, hnext] at hr
      rcases List.mem_cons.mp hr with rfl | hr
      · exact hfault
      · exact ih r hr

/-- **A start that fails changes nothing, unless only the registering fails.** Nothing is
registered in any case. If the plugin has a table or the settings are refused, then the
plugin is as it was, and all later starts come to what they would have come to without this
one. Otherwise the id is taken; the plugin keeps the table all the same, and refuses every
later start. -/
theorem failed_start_changes_nothing {fault : StartupFault} (h : w.answer a = .error fault) :
    (w.next a).deployment = w.deployment ∧
      (w.plugin.table ≠ none ∨ (∃ f, GrantTable.ofSettings a.settings = .error f) →
        w.next a = w ∧ ∀ later, (w.next a).answers later = w.answers later) ∧
      (∀ t, w.plugin.table = none → GrantTable.ofSettings a.settings = .ok t →
        (∃ i ∈ (w.deployment.registry a.registry).instances,
          i.id = instanceId a.settings.vendor) ∧
        fault = .fault (SetupFault.repeatedInstance (instanceId a.settings.vendor)).fault ∧
        (w.next a).plugin = ⟨some t⟩ ∧
        ∀ later, ∀ r ∈ (w.next a).answers later, ∃ fault', r = .error fault') := by
  have hstarted := started w a
  rw [h] at hstarted
  generalize w.next a = after at hstarted
  cases hstarted with
  | refused htable =>
      refine ⟨rfl, fun _ => ⟨rfl, fun _ => rfl⟩, ?_⟩
      intro t _ hok
      rw [htable] at hok
      cases hok
  | repeated htable hkept =>
      refine ⟨rfl, fun _ => ⟨rfl, fun _ => rfl⟩, ?_⟩
      intro t hnone _
      rw [hkept] at hnone
      cases hnone
  | @stranded t htable hkept htaken =>
      refine ⟨rfl, ?_, ?_⟩
      · rintro (hkept' | ⟨f, hf⟩)
        · exact absurd hkept hkept'
        · rw [htable] at hf
          cases hf
      · intro t' _ hok
        rw [htable] at hok
        cases hok
        refine ⟨htaken, rfl, rfl, ?_⟩
        intro later
        exact answers_of_table (Option.some_ne_none t) later

/-- Settings that name an unknown subject as signed in are refused, and the plugin starts
with the defaults afterwards as it would have before. -/
theorem failed_start_changes_nothing_unknown_signedIn :
    let w : Scene := ⟨{}, {}⟩
    let a : Attempt := ⟨0, { signedIn := some "ghost" }⟩
    let t : GrantTable := ⟨.allowAll, [], some (.withoutId "admin")⟩
    w.answer a = .error (.fault (SetupFault.unknownSignedIn "ghost").fault) ∧ w.next a = w ∧
      (w.next a).answers [⟨0, {}⟩, ⟨0, {}⟩] = [.ok t, .error .alreadyStarted] := by
  intro w a t
  have hanswer : w.answer a = .error (.fault (SetupFault.unknownSignedIn "ghost").fault) := by rfl
  obtain ⟨hnext, hlater⟩ := (failed_start_changes_nothing hanswer).2.1 (.inr ⟨_, rfl⟩)
  refine ⟨hanswer, hnext, ?_⟩
  rw [hlater]
  rfl

/-- A plugin whose id is taken keeps the table it could not register, and cannot start under
another vendor afterwards, as it could have done before. -/
theorem failed_start_strands_plugin :
    let t : GrantTable := ⟨.allowAll, [], some (.withoutId "admin")⟩
    let w : Scene := ⟨{}, { registries := [⟨[instanceOf {} t]⟩] }⟩
    let a : Attempt := ⟨0, {}⟩
    let other : Attempt := ⟨0, { vendor := "third" }⟩
    w.answer a =
        .error (.fault (SetupFault.repeatedInstance "static_auth_plugin.hyperspot").fault) ∧
      (w.next a).plugin ≠ w.plugin ∧ w.answer other = .ok t ∧
      (w.next a).answer other = .error .alreadyStarted := by
  intro t w a other
  refine ⟨?_, ?_, ?_, ?_⟩
  · rfl
  · have hplugin : (w.next a).plugin = ⟨some t⟩ := by rfl
    rw [hplugin]
    simp [w]
  · rfl
  · rfl

end Scene

end StaticPlugin

end AccessGate
