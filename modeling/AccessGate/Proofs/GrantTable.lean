/-
# Tables built from settings

`GrantTable.ofSettings` goes through the subjects in order and stops at the first
fault. This module says when there is none, and what the table holds then: every subject
of the settings becomes one entry, its rules become the entry's grants, and no name comes
twice. Looking a name up in such a table therefore finds the only subject of that name.

* `GrantSettings.Sound`, `SubjectSettings.Sound`, `SoundSubjects` : settings without a fault;
* `Grant.ofSettings_eq_ok`, `Entry.ofSettings_eq_ok`, `GrantTable.entriesOf_eq_ok` : what is
  sound becomes what it describes, and nothing else does;
* `GrantTable.entries_of_ofSettings` : the entries are those of the settings;
* `GrantTable.nodup_of_ofSettings` : no name comes twice;
* `GrantTable.find?_entries` : a name is looked up among the subjects;
* `GrantTable.current_eq` : who is signed in is looked up by name.
-/
import AccessGate.GrantTable
import Mathlib.Data.List.Nodup

namespace AccessGate

/-! ## Results of what can fail -/

/-- One step after another has a result exactly if both steps have. -/
theorem bind_eq_ok {ε α β : Type} {x : Except ε α} {f : α → Except ε β} {b : β} :
    (x >>= f) = .ok b ↔ ∃ a, x = .ok a ∧ f a = .ok b := by
  cases x with
  | error e => simp [bind, Except.bind]
  | ok a => simp [bind, Except.bind]

/-- If `f` has the result of `g` exactly where `P` holds, then it has results on a list
exactly if `P` holds everywhere, and they are those of `g`. -/
theorem mapM_eq_ok {ε α β : Type} {f : α → Except ε β} {g : α → β} {P : α → Prop}
    (hf : ∀ a b, f a = .ok b ↔ P a ∧ b = g a) {l : List α} {r : List β} :
    l.mapM f = .ok r ↔ (∀ a ∈ l, P a) ∧ r = l.map g := by
  induction l generalizing r with
  | nil =>
      rw [List.mapM_nil]
      simp [pure, Except.pure, eq_comm]
  | cons a l ih =>
      rw [List.mapM_cons, List.forall_mem_cons, List.map_cons]
      constructor
      · intro h
        obtain ⟨b, hb, h⟩ := bind_eq_ok.mp h
        obtain ⟨bs, hbs, h⟩ := bind_eq_ok.mp h
        cases h
        obtain ⟨ha, rfl⟩ := (hf a b).mp hb
        obtain ⟨hl, rfl⟩ := ih.mp hbs
        exact ⟨⟨ha, hl⟩, rfl⟩
      · rintro ⟨⟨ha, hl⟩, rfl⟩
        have hb := (hf a (g a)).mpr ⟨ha, rfl⟩
        have hbs := ih.mpr ⟨hl, rfl⟩
        exact bind_eq_ok.mpr ⟨g a, hb, bind_eq_ok.mpr ⟨l.map g, hbs, rfl⟩⟩

/-! ## Grants and entries -/

/-- The rule as a grant, whether it is sound or not. -/
def GrantSettings.grant (s : GrantSettings) : Grant :=
  ⟨s.resource, s.methods, s.id, s.part⟩

/-- Whether a rule makes sense: it lists a method, speaks of a part only where there are
parts, and of words that are no methods only for custom views. -/
structure GrantSettings.Sound (s : GrantSettings) : Prop where
  methods : s.methods ≠ []
  part : s.part ≠ none → s.resource = .record .dag
  standard : s.resource ≠ .customView → ∀ a ∈ s.methods, a.isStandard = true

/-- Exactly the sound rules become grants, and each the one it describes. -/
theorem Grant.ofSettings_eq_ok {name : String} {s : GrantSettings} {g : Grant} :
    Grant.ofSettings name s = .ok g ↔ s.Sound ∧ g = s.grant := by
  constructor
  · intro h
    unfold Grant.ofSettings at h
    split at h
    · cases h
    · next hmethods =>
      split at h
      · cases h
      · next hpart =>
        split at h
        · cases h
        · next hfind =>
          cases h
          refine ⟨⟨hmethods, ?_, ?_⟩, rfl⟩
          · exact not_and_not_right.mp hpart
          · intro hresource a ha
            simpa [hresource] using List.find?_eq_none.mp hfind a ha
  · rintro ⟨⟨hmethods, hpart, hstandard⟩, rfl⟩
    have hfind : (s.methods.find? fun a => s.resource ≠ .customView && !a.isStandard) = none := by
      rw [List.find?_eq_none]
      intro a ha
      simpa using fun hresource => hstandard hresource a ha
    rw [Grant.ofSettings, if_neg hmethods, if_neg (not_and_not_right.mpr hpart), hfind]
    rfl

/-- The subject's rules as an entry, whether they are sound or not. An empty id is no
id. -/
def SubjectSettings.entry (s : SubjectSettings) : Entry :=
  ⟨⟨s.id.filter (· ≠ ""), s.name⟩, s.grants.map GrantSettings.grant⟩

/-- Whether all rules of a subject make sense. -/
def SubjectSettings.Sound (s : SubjectSettings) : Prop :=
  ∀ g ∈ s.grants, g.Sound

/-- Exactly the subjects with sound rules become entries, and each the one it describes. -/
theorem Entry.ofSettings_eq_ok {s : SubjectSettings} {e : Entry} :
    Entry.ofSettings s = .ok e ↔ s.Sound ∧ e = s.entry := by
  rw [Entry.ofSettings, bind_eq_ok]
  simp only [mapM_eq_ok fun _ _ => Grant.ofSettings_eq_ok]
  constructor
  · rintro ⟨grants, ⟨hsound, rfl⟩, h⟩
    cases h
    exact ⟨hsound, rfl⟩
  · rintro ⟨hsound, rfl⟩
    exact ⟨s.grants.map GrantSettings.grant, ⟨hsound, rfl⟩, rfl⟩

/-- Whether the rules of some subjects make sense and each subject has a name of its own. -/
structure SoundSubjects (ss : List SubjectSettings) : Prop where
  sound : ∀ s ∈ ss, s.Sound
  nodup : (ss.map (·.name)).Nodup

/-- A subject in front needs a name that none of the others has. -/
theorem soundSubjects_cons {s : SubjectSettings} {ss : List SubjectSettings} :
    SoundSubjects (s :: ss) ↔ s.Sound ∧ (∀ s' ∈ ss, s'.name ≠ s.name) ∧ SoundSubjects ss := by
  constructor
  · rintro ⟨hsound, hnodup⟩
    rw [List.forall_mem_cons] at hsound
    rw [List.map_cons, List.nodup_cons] at hnodup
    refine ⟨hsound.1, ?_, hsound.2, hnodup.2⟩
    intro s' hs' hname
    exact hnodup.1 (hname ▸ List.mem_map_of_mem hs')
  · rintro ⟨hs, hfresh, hsound, hnodup⟩
    refine ⟨List.forall_mem_cons.mpr ⟨hs, hsound⟩, ?_⟩
    rw [List.map_cons, List.nodup_cons]
    refine ⟨?_, hnodup⟩
    intro hmem
    obtain ⟨s', hs', hname⟩ := List.mem_map.mp hmem
    exact hfresh s' hs' hname

namespace GrantTable

/-! ## Entries of a table -/

/-- Going through subjects goes through the first one, whose name has to be new, and then
through the others, which may not have its name either. -/
theorem entriesOf_cons_eq_ok {seen : List String} {s : SubjectSettings}
    {ss : List SubjectSettings} {es : List Entry} :
    entriesOf seen (s :: ss) = .ok es ↔
      s.Sound ∧ s.name ∉ seen ∧
        ∃ rest, entriesOf (s.name :: seen) ss = .ok rest ∧ es = s.entry :: rest := by
  rw [entriesOf, bind_eq_ok]
  simp only [Entry.ofSettings_eq_ok]
  constructor
  · rintro ⟨e, ⟨hsound, rfl⟩, h⟩
    split at h
    · cases h
    · next hseen =>
      obtain ⟨rest, hrest, h⟩ := bind_eq_ok.mp h
      cases h
      exact ⟨hsound, hseen, rest, hrest, rfl⟩
  · rintro ⟨hsound, hseen, rest, hrest, rfl⟩
    refine ⟨s.entry, ⟨hsound, rfl⟩, ?_⟩
    rw [if_neg hseen]
    exact bind_eq_ok.mpr ⟨rest, hrest, rfl⟩

/-- **Exactly sound subjects under new names become entries**, one each. -/
theorem entriesOf_eq_ok {seen : List String} {ss : List SubjectSettings} {es : List Entry} :
    entriesOf seen ss = .ok es ↔
      SoundSubjects ss ∧ (∀ s ∈ ss, s.name ∉ seen) ∧ es = ss.map SubjectSettings.entry := by
  induction ss generalizing seen es with
  | nil =>
      rw [entriesOf]
      constructor
      · rintro ⟨⟩
        refine ⟨⟨?_, List.nodup_nil⟩, ?_, rfl⟩ <;> simp
      · rintro ⟨-, -, rfl⟩
        rfl
  | cons s ss ih =>
      rw [entriesOf_cons_eq_ok, soundSubjects_cons, List.forall_mem_cons, List.map_cons]
      simp only [ih, List.mem_cons, not_or]
      constructor
      · rintro ⟨hs, hseen, rest, ⟨hss, hfresh, rfl⟩, rfl⟩
        exact ⟨⟨hs, fun s' hs' => (hfresh s' hs').1, hss⟩,
          ⟨hseen, fun s' hs' => (hfresh s' hs').2⟩, rfl⟩
      · rintro ⟨⟨hs, hnew, hss⟩, ⟨hseen, hfresh⟩, rfl⟩
        exact ⟨hs, hseen, _, ⟨hss, fun s' hs' => ⟨hnew s' hs', hfresh s' hs'⟩, rfl⟩, rfl⟩

variable {s : StaticSettings} {t : GrantTable}

/-- The three parts of building a table, when none of them fails. -/
theorem ofSettings_eq_ok :
    ofSettings s = .ok t ↔
      ∃ es current, entriesOf [] s.subjects = .ok es ∧ signedIn s es = .ok current ∧
        t = ⟨s.mode, es, current⟩ := by
  constructor
  · intro h
    obtain ⟨es, hes, h⟩ := bind_eq_ok.mp h
    obtain ⟨current, hcurrent, h⟩ := bind_eq_ok.mp h
    cases h
    exact ⟨es, current, hes, hcurrent, rfl⟩
  · rintro ⟨es, current, hes, hcurrent, rfl⟩
    exact bind_eq_ok.mpr ⟨es, hes, bind_eq_ok.mpr ⟨current, hcurrent, rfl⟩⟩

/-- A table decides in the mode of its settings. -/
theorem mode_of_ofSettings (h : ofSettings s = .ok t) : t.mode = s.mode := by
  obtain ⟨es, current, -, -, rfl⟩ := ofSettings_eq_ok.mp h
  rfl

/-- A table has an entry for each subject of its settings, in order. -/
theorem entries_of_ofSettings (h : ofSettings s = .ok t) :
    t.entries = s.subjects.map SubjectSettings.entry := by
  obtain ⟨es, current, hes, -, rfl⟩ := ofSettings_eq_ok.mp h
  exact (entriesOf_eq_ok.mp hes).2.2

/-- Settings that become a table name no subject twice. -/
theorem nodup_of_ofSettings (h : ofSettings s = .ok t) : (s.subjects.map (·.name)).Nodup := by
  obtain ⟨es, current, hes, -, rfl⟩ := ofSettings_eq_ok.mp h
  exact (entriesOf_eq_ok.mp hes).1.nodup

/-! ## Looking names up -/

/-- Where names are distinct, looking one up finds the entry of the subject that has
it. -/
theorem find?_entries {ss : List SubjectSettings} (hss : (ss.map (·.name)).Nodup) {name : String}
    {e : Entry} :
    find? name (ss.map SubjectSettings.entry) = some e ↔ ∃ s ∈ ss, s.name = name ∧ s.entry = e := by
  constructor
  · intro h
    have hname : e.subject.name = name := by
      simpa using List.find?_some h
    obtain ⟨s, hs, rfl⟩ := List.mem_map.mp (List.mem_of_find?_eq_some h)
    exact ⟨s, hs, hname, rfl⟩
  · rintro ⟨s, hs, rfl, rfl⟩
    have hsome : (find? s.name (ss.map SubjectSettings.entry)).isSome = true := by
      rw [find?, List.find?_isSome]
      exact ⟨s.entry, List.mem_map_of_mem hs, by simp [SubjectSettings.entry]⟩
    obtain ⟨e, he⟩ := Option.isSome_iff_exists.mp hsome
    have hname : e.subject.name = s.name := by
      simpa using List.find?_some he
    -- distinct names make the entry that is found the subject's own
    obtain ⟨s', hs', rfl⟩ := List.mem_map.mp (List.mem_of_find?_eq_some he)
    rw [he, List.inj_on_of_nodup_map hss hs' hs hname]

/-- A name is not found exactly if no subject has it. -/
theorem find?_entries_eq_none {ss : List SubjectSettings} {name : String} :
    find? name (ss.map SubjectSettings.entry) = none ↔ name ∉ ss.map (·.name) := by
  rw [find?, List.find?_eq_none]
  simp [SubjectSettings.entry]

/-- The entry of a name is the one that the subject of this name describes. -/
theorem find?_of_ofSettings (h : ofSettings s = .ok t) {name : String} {e : Entry} :
    find? name t.entries = some e ↔ ∃ s' ∈ s.subjects, s'.name = name ∧ s'.entry = e := by
  rw [entries_of_ofSettings h]
  exact find?_entries (nodup_of_ofSettings h)

/-- What is read off the entry of a name is read off the one that its subject describes. -/
theorem map_find?_of_ofSettings (h : ofSettings s = .ok t) {name : String} {β : Type}
    {f : Entry → β} {b : β} :
    (find? name t.entries).map f = some b ↔
      ∃ s' ∈ s.subjects, s'.name = name ∧ b = f s'.entry := by
  rw [Option.map_eq_some_iff]
  simp only [find?_of_ofSettings h]
  constructor
  · rintro ⟨e, ⟨s', hs', rfl, rfl⟩, rfl⟩
    exact ⟨s', hs', rfl, rfl⟩
  · rintro ⟨s', hs', rfl, rfl⟩
    exact ⟨s'.entry, ⟨s', hs', rfl, rfl⟩, rfl⟩

/-- The subject of a name is the configured one, whose empty id is no id. -/
theorem subject?_eq_some (h : ofSettings s = .ok t) {name : String} {subject : Subject} :
    t.subject? name = some subject ↔
      ∃ s' ∈ s.subjects, s'.name = name ∧ subject = ⟨s'.id.filter (· ≠ ""), name⟩ := by
  rw [subject?, map_find?_of_ofSettings h]
  constructor
  · rintro ⟨s', hs', rfl, rfl⟩
    exact ⟨s', hs', rfl, rfl⟩
  · rintro ⟨s', hs', rfl, rfl⟩
    exact ⟨s', hs', rfl, rfl⟩

/-- The grants of a name are those that the rules of its subject describe, in order. -/
theorem grants?_eq_some (h : ofSettings s = .ok t) {name : String} {grants : List Grant} :
    t.grants? name = some grants ↔
      ∃ s' ∈ s.subjects, s'.name = name ∧ grants = s'.grants.map GrantSettings.grant :=
  map_find?_of_ofSettings h

/-! ## Who is signed in -/

/-- The table tells by name who is signed in: the subject that the settings name; or, if they
name none and everything is allowed, the default subject, configured or not. -/
theorem current_eq (h : ofSettings s = .ok t) :
    t.current =
      match s.signedIn, s.mode with
      | some name, _ => t.subject? name
      | none, .allowAll => some ((t.subject? defaultSubject).getD (.withoutId defaultSubject))
      | none, .staticGrants => none := by
  obtain ⟨es, current, -, hcurrent, rfl⟩ := ofSettings_eq_ok.mp h
  rw [signedIn] at hcurrent
  cases hname : s.signedIn with
  | some name =>
      rw [hname] at hcurrent
      cases he : find? name es with
      | none =>
          simp only [he] at hcurrent
          cases hcurrent
      | some e =>
          simp only [he] at hcurrent
          cases hcurrent
          simp [subject?, he]
  | none =>
      rw [hname] at hcurrent
      cases hmode : s.mode with
      | allowAll =>
          rw [hmode] at hcurrent
          cases he : find? defaultSubject es with
          | none =>
              simp only [he] at hcurrent
              cases hcurrent
              simp [subject?, he]
          | some e =>
              simp only [he] at hcurrent
              cases hcurrent
              simp [subject?, he]
      | staticGrants =>
          rw [hmode] at hcurrent
          cases hcurrent
          rfl

end GrantTable

end AccessGate
