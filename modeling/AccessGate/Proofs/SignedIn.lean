/-
# The subject that is signed in

The settings of the static backend are read for a name in two places: to find out who is signed
in, and to compare the id of a caller with the configured one. Both take an empty id for none,
and names are distinct, so both come upon the same subject. Whoever is signed in therefore
passes the comparison, and is decided about by the rules under its name alone.

* `SubjectSettings.subject` : a configured subject as it is known;
* `StaticSettings.SignsIn` : who is signed in, said on the settings;
* `GrantTable.current_eq_iff` : this is whom a table names;
* `StaticSettings.SignsIn.describes` : what is configured under its name describes it;
* `GrantTable.signedIn_never_locked_out` : so its id is never held against it.
-/
import AccessGate.Proofs.FirstFault
import AccessGate.Proofs.Permission

namespace AccessGate

/-! ## Configured subjects -/

namespace SubjectSettings

/-- A configured subject as it is known. Its empty id is no id. -/
def subject (e : SubjectSettings) : Subject :=
  ⟨e.id.filter (· ≠ ""), e.name⟩

/-- So it is never known by an empty id. -/
theorem subject_id_ne_empty (e : SubjectSettings) : e.subject.id ≠ some "" := by
  simp [subject]

/-- What is configured describes the subject as it is known. -/
theorem describes_subject (e : SubjectSettings) : e.Describes e.subject where
  name := rfl
  id := by
    cases hid : e.id with
    | none => exact .inl rfl
    | some id =>
        by_cases hempty : id = ""
        · exact .inr (.inl (congrArg some hempty))
        · exact .inr (.inr (by simp [subject, hid, Option.filter, hempty]))

end SubjectSettings

/-! ## Who is signed in -/

/-- Who is signed in according to settings: the configured subject that they name; if they name
none and everything is allowed, the one called `admin`, which need not be configured; and
otherwise nobody. -/
inductive StaticSettings.SignsIn (s : StaticSettings) : Option Subject → Prop where
  | named {e : SubjectSettings} :
      s.signedIn = some e.name → e ∈ s.subjects → SignsIn s (some e.subject)
  | admin {e : SubjectSettings} :
      s.signedIn = none → s.mode = .allowAll → e ∈ s.subjects → e.name = "admin" →
        SignsIn s (some e.subject)
  | unconfigured :
      s.signedIn = none → s.mode = .allowAll → (∀ e ∈ s.subjects, e.name ≠ "admin") →
        SignsIn s (some (.withoutId "admin"))
  | nobody : s.signedIn = none → s.mode = .staticGrants → SignsIn s none

namespace StaticSettings.SignsIn

variable {s : StaticSettings} {c : Subject}

/-- Nobody is signed in under an empty id. -/
theorem id_ne_empty (h : s.SignsIn (some c)) : c.id ≠ some "" := by
  cases h with
  | named hname he => exact SubjectSettings.subject_id_ne_empty _
  | admin hnone hmode he hname => exact SubjectSettings.subject_id_ne_empty _
  | unconfigured hnone hmode hunknown => exact nofun

/-- What is configured under the name of who is signed in describes it, with its id. -/
theorem describes (h : s.SignsIn (some c)) (hnodup : (s.subjects.map (·.name)).Nodup)
    {e : SubjectSettings} (he : e ∈ s.subjects) (hname : e.name = c.name) : e.Describes c := by
  have hunique : ∀ e' ∈ s.subjects, c = e'.subject → e.Describes c := by
    rintro e' he' rfl
    rw [List.inj_on_of_nodup_map hnodup he he' hname]
    exact e'.describes_subject
  cases h with
  | named hsigned he' => exact hunique _ he' rfl
  | admin hnone hmode he' hadmin => exact hunique _ he' rfl
  | unconfigured hnone hmode hunknown => exact absurd hname (hunknown e he)

end StaticSettings.SignsIn

namespace GrantTable

variable {s : StaticSettings} {t : GrantTable}

/-- The subject of a name is the configured one. -/
theorem subject?_eq_some_iff (h : ofSettings s = .ok t) {name : String} {c : Subject} :
    t.subject? name = some c ↔ ∃ e ∈ s.subjects, e.name = name ∧ c = e.subject :=
  map_find?_of_ofSettings h

/-- There is none if nothing is configured under the name. -/
theorem subject?_eq_none_iff (h : ofSettings s = .ok t) {name : String} :
    t.subject? name = none ↔ ∀ e ∈ s.subjects, e.name ≠ name := by
  simp only [Option.eq_none_iff_forall_ne_some, ne_eq, subject?_eq_some_iff h]
  constructor
  · intro hnone e he hname
    exact hnone e.subject ⟨e, he, hname, rfl⟩
  · rintro hunknown c ⟨e, he, hname, -⟩
    exact hunknown e he hname

/-- Whom a table names is signed in according to its settings. -/
theorem signsIn_current (h : ofSettings s = .ok t) : s.SignsIn t.current := by
  rw [current_eq h]
  cases hsigned : s.signedIn with
  | some name =>
      have hsound : s.Sound := exists_ofSettings_iff.mp ⟨t, h⟩
      obtain ⟨e, he, rfl⟩ := List.mem_map.mp (hsound.signedIn name hsigned)
      have hsubject := (subject?_eq_some_iff h).mpr ⟨e, he, rfl, rfl⟩
      simp only [hsubject]
      exact .named hsigned he
  | none =>
      cases hmode : s.mode with
      | staticGrants => exact .nobody hsigned hmode
      | allowAll =>
          cases hadmin : t.subject? defaultSubject with
          | none => exact .unconfigured hsigned hmode ((subject?_eq_none_iff h).mp hadmin)
          | some c =>
              obtain ⟨e, he, hname, rfl⟩ := (subject?_eq_some_iff h).mp hadmin
              exact .admin hsigned hmode he hname

/-- **A table names whoever is signed in according to its settings**, and nobody else. -/
theorem current_eq_iff (h : ofSettings s = .ok t) {who : Option Subject} :
    t.current = who ↔ s.SignsIn who := by
  constructor
  · rintro rfl
    exact signsIn_current h
  · intro hwho
    rw [current_eq h]
    cases hwho with
    | named hsigned he =>
        simp only [hsigned]
        exact (subject?_eq_some_iff h).mpr ⟨_, he, rfl, rfl⟩
    | admin hnone hmode he hname =>
        have hadmin := (subject?_eq_some_iff h).mpr ⟨_, he, hname, rfl⟩
        simp only [hnone, hmode, defaultSubject, hadmin]
        rfl
    | unconfigured hnone hmode hunknown =>
        simp only [hnone, hmode, defaultSubject, (subject?_eq_none_iff h).mpr hunknown]
        rfl
    | nobody hnone hmode => simp only [hnone, hmode]

/-! ## What is held against it -/

section Current

variable {c : Subject} (h : ofSettings s = .ok t) (hc : t.current = some c)
include h hc

/-- Whoever is signed in is not taken for somebody else of its name. -/
theorem isImpostor_current : t.isImpostor c = false := by
  rw [isImpostor]
  cases hfind : find? c.name t.entries with
  | none => rfl
  | some entry =>
      obtain ⟨e, he, hname, rfl⟩ := (find?_of_ofSettings h).mp hfind
      have hdescribes := ((current_eq_iff h).mp hc).describes (nodup_of_ofSettings h) he hname
      simp [(Entry.admits_iff e c).mpr hdescribes.id]

/-- It holds all grants that are configured under its name. -/
theorem mem_grantsFor_current (g : Grant) :
    g ∈ t.grantsFor c ↔ ∃ e ∈ s.subjects, e.name = c.name ∧ ∃ r ∈ e.grants, r.grant = g := by
  rw [mem_grantsFor h]
  constructor
  · rintro ⟨e, he, hdescribes, hr⟩
    exact ⟨e, he, hdescribes.name, hr⟩
  · rintro ⟨e, he, hname, hr⟩
    exact ⟨e, he, ((current_eq_iff h).mp hc).describes (nodup_of_ofSettings h) he hname, hr⟩

/-- So it is allowed what one of them covers, unless everything is allowed anyway. -/
theorem allows_current_iff (hmode : s.mode = .staticGrants) (check : Check) :
    t.allows check (some c) = true ↔
      ∃ e ∈ s.subjects, e.name = c.name ∧ ∃ r ∈ e.grants, r.grant.covers check = true := by
  rw [allows, mode_of_ofSettings h, hmode, List.any_eq_true]
  simp only [mem_grantsFor_current h hc]
  constructor
  · rintro ⟨g, ⟨e, he, hname, r, hr, rfl⟩, hcovers⟩
    exact ⟨e, he, hname, r, hr, hcovers⟩
  · rintro ⟨e, he, hname, r, hr, hcovers⟩
    exact ⟨r.grant, ⟨e, he, hname, r, hr, rfl⟩, hcovers⟩

end Current

/-- **Whoever is signed in is never locked out for its id.** The static backend finds exactly the
subject that is signed in according to the settings: the configured one that they name; or,
if they name none and everything is allowed, the configured `admin`, or one without an id if
there is none; or else nobody. It is never known by an empty id, and is not taken for
somebody else of its name. Where grants decide, it is allowed what one of the grants configured
under its name covers, whatever their subject's id is. -/
theorem signedIn_never_locked_out (h : ofSettings s = .ok t) :
    (∀ who, t.manager.subject = pure who ↔ s.SignsIn who) ∧
      ∀ c, t.manager.subject = pure (some c) →
        c.id ≠ some "" ∧ t.isImpostor c = false ∧
          (s.mode = .staticGrants →
            (∀ check : Check, t.allows check (some c) = true ↔
              ∃ e ∈ s.subjects, e.name = c.name ∧ ∃ r ∈ e.grants, r.grant.covers check = true) ∧
            ∀ q : Question, (t.manager.check ⟨q, some c⟩).value = true ↔
              ∃ e ∈ s.subjects, e.name = c.name ∧ ∃ r ∈ e.grants, r.Answers (· = ·) q) := by
  have hsubject : ∀ who, t.manager.subject = pure who ↔ t.current = who :=
    fun who => ⟨fun hrun => congrArg Run.value hrun, fun hcurrent => congrArg pure hcurrent⟩
  refine ⟨fun who => (hsubject who).trans (current_eq_iff h), ?_⟩
  intro c hrun
  have hc := (hsubject (some c)).mp hrun
  refine ⟨((current_eq_iff h).mp hc).id_ne_empty, isImpostor_current h hc, ?_⟩
  intro hmode
  have hallows := allows_current_iff h hc hmode
  refine ⟨hallows, ?_⟩
  intro q
  rw [value_check, hallows]
  simp only [Grant.covers_iff]

/-- The subject that is named has an id, and another one an empty id: it is signed in with its
own and decided about by its rule, which a caller of its name without the id is not. -/
theorem signedIn_never_locked_out_with_id :
    let rule : GrantSettings := { resource := .record .pool, methods := [.standard .put] }
    let zed : SubjectSettings := { name := "zed", id := some "" }
    let ada : SubjectSettings := { name := "ada", id := some "7", grants := [rule] }
    let s : StaticSettings :=
      { mode := .staticGrants, signedIn := some "ada", subjects := [zed, ada] }
    let t : GrantTable := ⟨.staticGrants, [zed.entry, ada.entry], some (.withId "7" "ada")⟩
    let q : Question := .record .pool .put none
    ofSettings s = .ok t ∧ t.manager.subject = pure (some (.withId "7" "ada")) ∧
      s.SignsIn (some (.withId "7" "ada")) ∧ s.mode = .staticGrants ∧
      (t.manager.check ⟨q, some (.withId "7" "ada")⟩).value = true ∧
      (t.manager.check ⟨q, some (.withoutId "ada")⟩).value = false := by
  intro rule zed ada s t q
  have hbuilt : ofSettings s = .ok t := by rfl
  have hsubject : t.manager.subject = pure (some (.withId "7" "ada")) := by rfl
  obtain ⟨hsigned, hlocked⟩ := signedIn_never_locked_out hbuilt
  obtain ⟨-, -, hdecides⟩ := hlocked (.withId "7" "ada") hsubject
  have hrule : rule.Answers (· = ·) q := ⟨rfl, ⟨.standard .put, by decide, rfl⟩, .inl rfl, .inl rfl⟩
  have hallowed := ((hdecides rfl).2 q).mpr ⟨ada, by simp [s], rfl, rule, by simp [ada], hrule⟩
  exact ⟨hbuilt, hsubject, (hsigned _).mp hsubject, rfl, hallowed, by decide⟩

end GrantTable

end AccessGate
