/-
# The first fault of settings

Settings that are not sound are refused with one fault, although they may have many. It is
the first one in the order in which settings are written: a subject comes after the subjects
in front of it, its name after its rules, and who is signed in after all subjects. Here this is
said without going through the settings: what stands in front of the fault has none.

* `GrantSettings.FirstFault`, `SubjectSettings.FirstFault`, `StaticSettings.FirstFault` : what
  is wrong first;
* `Grant.ofSettings_eq_error`, `Entry.ofSettings_eq_error`, `GrantTable.entriesOf_eq_error` :
  a fault is reported exactly if it is the first;
* `GrantTable.table_or_first_fault` : settings are a table if they are sound, and otherwise have
  a first fault.
-/
import AccessGate.Proofs.GrantTable

namespace AccessGate

/-! ## What fails first -/

/-- One step after another fails exactly if the first one does, or the second one does. -/
theorem bind_eq_error {ε α β : Type} {x : Except ε α} {f : α → Except ε β} {e : ε} :
    (x >>= f) = .error e ↔ x = .error e ∨ ∃ a, x = .ok a ∧ f a = .error e := by
  cases x with
  | error e' => simp [bind, Except.bind]
  | ok a => simp [bind, Except.bind]

/-- On a list fails what fails on one of its members and on none in front of it. -/
theorem mapM_eq_error {ε α β : Type} {f : α → Except ε β} {l : List α} {e : ε} :
    l.mapM f = .error e ↔
      ∃ before a after, l = before ++ a :: after ∧ (∀ b ∈ before, ∃ c, f b = .ok c) ∧
        f a = .error e := by
  induction l with
  | nil => simp [pure, Except.pure]
  | cons a l ih =>
      rw [List.mapM_cons, bind_eq_error]
      constructor
      · rintro (ha | ⟨b, hb, h⟩)
        · exact ⟨[], a, l, rfl, by simp, ha⟩
        · rcases bind_eq_error.mp h with hl | ⟨bs, -, h⟩
          · obtain ⟨before, a', after, rfl, hbefore, ha'⟩ := ih.mp hl
            refine ⟨a :: before, a', after, rfl, ?_, ha'⟩
            exact List.forall_mem_cons.mpr ⟨⟨b, hb⟩, hbefore⟩
          · cases h
      · rintro ⟨before, a', after, hl, hbefore, ha'⟩
        cases before with
        | nil =>
            cases hl
            exact .inl ha'
        | cons b before =>
            cases hl
            obtain ⟨⟨c, hc⟩, hbefore⟩ := List.forall_mem_cons.mp hbefore
            have hrest := ih.mpr ⟨before, a', after, rfl, hbefore, ha'⟩
            exact .inr ⟨c, hc, bind_eq_error.mpr (.inl hrest)⟩

/-! ## Rules -/

/-- What is wrong first with a rule of a subject. -/
inductive GrantSettings.FirstFault (name : String) (g : GrantSettings) : SetupFault → Prop where
  | noMethods : g.methods = [] → FirstFault name g (.noMethods g.resource name)
  | partOutsideDags :
      g.methods ≠ [] → g.part ≠ none → g.resource ≠ .record .dag →
        FirstFault name g (.partOutsideDags g.resource name)
  | customMethod {before after : List Action} {a : Action} :
      (g.part ≠ none → g.resource = .record .dag) → g.resource ≠ .customView →
        g.methods = before ++ a :: after → (∀ b ∈ before, b.isStandard = true) →
          a.isStandard = false → FirstFault name g (.customMethod g.resource name a.text)

/-- **A rule is refused for what is wrong with it first.** -/
theorem Grant.ofSettings_eq_error {name : String} {g : GrantSettings} {f : SetupFault} :
    Grant.ofSettings name g = .error f ↔ g.FirstFault name f := by
  constructor
  · intro h
    unfold Grant.ofSettings at h
    split at h
    · next hmethods =>
      cases h
      exact .noMethods hmethods
    · next hmethods =>
      split at h
      · next hpart =>
        cases h
        exact .partOutsideDags hmethods hpart.1 hpart.2
      · next hpart =>
        split at h
        · next a hfind =>
          cases h
          obtain ⟨ha, before, after, hsplit, hbefore⟩ := List.find?_eq_some_iff_append.mp hfind
          simp only [Bool.and_eq_true, decide_eq_true_eq, Bool.not_eq_true'] at ha
          refine .customMethod (not_and_not_right.mp hpart) ha.1 hsplit ?_ ha.2
          intro b hb
          simpa [ha.1] using hbefore b hb
        · cases h
  · intro h
    rw [Grant.ofSettings]
    cases h with
    | noMethods hmethods => rw [if_pos hmethods]
    | partOutsideDags hmethods hset hresource =>
        rw [if_neg hmethods, if_pos ⟨hset, hresource⟩]
    | @customMethod before after a hpart hresource hsplit hbefore ha =>
        have hmethods : g.methods ≠ [] := by
          rw [hsplit]
          exact List.append_ne_nil_of_right_ne_nil before (List.cons_ne_nil a after)
        have hfind : (g.methods.find? fun a => g.resource ≠ .customView && !a.isStandard) =
            some a := by
          rw [List.find?_eq_some_iff_append]
          refine ⟨by simp [hresource, ha], before, after, hsplit, ?_⟩
          intro b hb
          simp [hbefore b hb]
        rw [if_neg hmethods, if_neg (not_and_not_right.mpr hpart), hfind]

/-! ## Subjects -/

/-- What is wrong first with a subject, if the names in `taken` are those of others: its
first rule that is not sound; or its name, if all its rules are. -/
inductive SubjectSettings.FirstFault (taken : List String) (s : SubjectSettings) :
    SetupFault → Prop where
  | rule {before after : List GrantSettings} {g : GrantSettings} {f : SetupFault} :
      s.grants = before ++ g :: after → (∀ b ∈ before, b.Sound) → g.FirstFault s.name f →
        FirstFault taken s f
  | repeated : s.Sound → s.name ∈ taken → FirstFault taken s (.repeatedSubject s.name)

/-- The rules of a subject are refused for the first one that is not sound. -/
theorem Entry.ofSettings_eq_error {s : SubjectSettings} {f : SetupFault} :
    Entry.ofSettings s = .error f ↔
      ∃ before g after, s.grants = before ++ g :: after ∧ (∀ b ∈ before, b.Sound) ∧
        g.FirstFault s.name f := by
  have hsound : ∀ g : GrantSettings, (∃ c, Grant.ofSettings s.name g = .ok c) ↔ g.Sound := by
    intro g
    simp [Grant.ofSettings_eq_ok]
  rw [Entry.ofSettings, bind_eq_error, mapM_eq_error]
  simp only [hsound, Grant.ofSettings_eq_error]
  constructor
  · rintro (h | ⟨grants, -, h⟩)
    · exact h
    · cases h
  · exact .inl

/-- A name that is taken is so among more names. -/
theorem SubjectSettings.FirstFault.mono {taken taken' : List String} {s : SubjectSettings}
    {f : SetupFault} (h : s.FirstFault taken f) (hsub : taken ⊆ taken') :
    s.FirstFault taken' f := by
  cases h with
  | rule hsplit hbefore hg => exact .rule hsplit hbefore hg
  | repeated hsound htaken => exact .repeated hsound (hsub htaken)

namespace GrantTable

/-- Going through subjects fails at the first one, or it is sound under a new name and going
through the others fails. -/
theorem entriesOf_cons_eq_error {seen : List String} {s : SubjectSettings}
    {ss : List SubjectSettings} {f : SetupFault} :
    entriesOf seen (s :: ss) = .error f ↔
      s.FirstFault seen f ∨
        s.Sound ∧ s.name ∉ seen ∧ entriesOf (s.name :: seen) ss = .error f := by
  rw [entriesOf, bind_eq_error, Entry.ofSettings_eq_error]
  simp only [Entry.ofSettings_eq_ok]
  constructor
  · rintro (⟨before, g, after, hsplit, hbefore, hg⟩ | ⟨e, ⟨hsound, rfl⟩, h⟩)
    · exact .inl (.rule hsplit hbefore hg)
    · split at h
      · next hseen =>
        cases h
        exact .inl (.repeated hsound hseen)
      · next hseen =>
        rcases bind_eq_error.mp h with hrest | ⟨rest, -, h⟩
        · exact .inr ⟨hsound, hseen, hrest⟩
        · cases h
  · rintro (h | ⟨hsound, hseen, hrest⟩)
    · cases h with
      | rule hsplit hbefore hg => exact .inl ⟨_, _, _, hsplit, hbefore, hg⟩
      | repeated hsound hseen =>
          refine .inr ⟨s.entry, ⟨hsound, rfl⟩, ?_⟩
          rw [if_pos hseen]
    · refine .inr ⟨s.entry, ⟨hsound, rfl⟩, ?_⟩
      rw [if_neg hseen]
      exact bind_eq_error.mpr (.inl hrest)

/-- **Going through subjects fails at the first one with a fault**: those in front of it are
sound, and their names are the ones that are taken for it. -/
theorem entriesOf_eq_error {seen : List String} {ss : List SubjectSettings} {f : SetupFault} :
    entriesOf seen ss = .error f ↔
      ∃ before s after, ss = before ++ s :: after ∧ SoundSubjects before ∧
        (∀ b ∈ before, b.name ∉ seen) ∧ s.FirstFault (before.map (·.name) ++ seen) f := by
  induction ss generalizing seen with
  | nil => simp [entriesOf]
  | cons s ss ih =>
      rw [entriesOf_cons_eq_error, ih]
      constructor
      · rintro (h | ⟨hsound, hseen, before, s', after, rfl, hbefore, hfresh, h⟩)
        · exact ⟨[], s, ss, rfl, ⟨by simp, List.nodup_nil⟩, by simp, h⟩
        · simp only [List.mem_cons, not_or] at hfresh
          refine ⟨s :: before, s', after, rfl, ?_, ?_, h.mono ?_⟩
          · exact soundSubjects_cons.mpr ⟨hsound, fun b hb => (hfresh b hb).1, hbefore⟩
          · exact List.forall_mem_cons.mpr ⟨hseen, fun b hb => (hfresh b hb).2⟩
          · intro name
            simp only [List.map_cons, List.mem_append, List.mem_cons]
            tauto
      · rintro ⟨before, s', after, hsplit, hbefore, hfresh, h⟩
        cases before with
        | nil =>
            cases hsplit
            exact .inl h
        | cons b before =>
            cases hsplit
            obtain ⟨hsound, hnew, hbefore⟩ := soundSubjects_cons.mp hbefore
            obtain ⟨hseen, hfresh⟩ := List.forall_mem_cons.mp hfresh
            refine .inr ⟨hsound, hseen, before, s', after, rfl, hbefore, ?_, h.mono ?_⟩
            · intro b' hb'
              rw [List.mem_cons, not_or]
              exact ⟨hnew b' hb', hfresh b' hb'⟩
            · intro name
              simp only [List.map_cons, List.mem_append, List.mem_cons]
              tauto

end GrantTable

/-! ## Settings -/

/-- Whether settings have no fault: their subjects have none, and who is signed in, if anyone
is named, is one of them. -/
structure StaticSettings.Sound (s : StaticSettings) : Prop where
  subjects : SoundSubjects s.subjects
  signedIn : ∀ name, s.signedIn = some name → name ∈ s.subjects.map (·.name)

/-- What is wrong first with settings: the first subject with a fault; or, if there is none,
who is signed in. -/
inductive StaticSettings.FirstFault (s : StaticSettings) : SetupFault → Prop where
  | subject {before after : List SubjectSettings} {e : SubjectSettings} {f : SetupFault} :
      s.subjects = before ++ e :: after → SoundSubjects before →
        e.FirstFault (before.map (·.name)) f → FirstFault s f
  | signedIn {name : String} :
      SoundSubjects s.subjects → s.signedIn = some name → name ∉ s.subjects.map (·.name) →
        FirstFault s (.unknownSignedIn name)

namespace GrantTable

variable {s : StaticSettings}

/-- Whoever is named as signed in is found unless no subject has the name. -/
theorem signedIn_eq_error {f : SetupFault} :
    signedIn s (s.subjects.map SubjectSettings.entry) = .error f ↔
      ∃ name, s.signedIn = some name ∧ name ∉ s.subjects.map (·.name) ∧
        f = .unknownSignedIn name := by
  simp only [← find?_entries_eq_none]
  unfold signedIn
  split
  · next name hname =>
    rw [hname]
    split
    · next e he => simp [he]
    · next he => simp [he, eq_comm]
  · next hname hmode =>
    rw [hname]
    split <;> simp
  · next hname hmode =>
    rw [hname]
    simp

/-- The parts of building a table, when one of them fails. -/
theorem ofSettings_eq_error {f : SetupFault} : ofSettings s = .error f ↔ s.FirstFault f := by
  rw [ofSettings, bind_eq_error, entriesOf_eq_error]
  simp only [entriesOf_eq_ok, List.not_mem_nil, not_false_eq_true, implies_true, true_and,
    List.append_nil]
  constructor
  · rintro (⟨before, e, after, hsplit, hbefore, h⟩ | ⟨es, ⟨hsubjects, rfl⟩, h⟩)
    · exact .subject hsplit hbefore h
    · rcases bind_eq_error.mp h with hsigned | ⟨current, -, h⟩
      · obtain ⟨name, hname, hunknown, rfl⟩ := signedIn_eq_error.mp hsigned
        exact .signedIn hsubjects hname hunknown
      · cases h
  · rintro (⟨hsplit, hbefore, h⟩ | ⟨hsubjects, hname, hunknown⟩)
    · exact .inl ⟨_, _, _, hsplit, hbefore, h⟩
    · refine .inr ⟨_, ⟨hsubjects, rfl⟩, bind_eq_error.mpr (.inl ?_)⟩
      exact signedIn_eq_error.mpr ⟨_, hname, hunknown, rfl⟩

/-- Settings describe a table exactly if they have no fault. -/
theorem exists_ofSettings_iff : (∃ t, ofSettings s = .ok t) ↔ s.Sound := by
  constructor
  · rintro ⟨t, h⟩
    obtain ⟨es, current, hes, hcurrent, -⟩ := ofSettings_eq_ok.mp h
    obtain ⟨hsubjects, -, rfl⟩ := entriesOf_eq_ok.mp hes
    refine ⟨hsubjects, ?_⟩
    intro name hname
    apply not_not.mp
    intro hunknown
    rw [signedIn_eq_error.mpr ⟨name, hname, hunknown, rfl⟩] at hcurrent
    cases hcurrent
  · intro h
    have hes : entriesOf [] s.subjects = .ok (s.subjects.map SubjectSettings.entry) :=
      entriesOf_eq_ok.mpr ⟨h.subjects, by simp, rfl⟩
    cases hcurrent : signedIn s (s.subjects.map SubjectSettings.entry) with
    | ok current => exact ⟨_, ofSettings_eq_ok.mpr ⟨_, current, hes, hcurrent, rfl⟩⟩
    | error f =>
        obtain ⟨name, hname, hunknown, -⟩ := signedIn_eq_error.mp hcurrent
        exact absurd (h.signedIn name hname) hunknown

/-- **A table, or the first fault.** Exactly the settings without a fault describe a table. For
any others an invalid configuration is reported, with the text of the fault that comes first.
In a table each name stands for what was configured under it: the subject, whose empty id is no
id, and the rules as grants, in order; and for nothing if nothing was configured. -/
theorem table_or_first_fault (s : StaticSettings) :
    ((∃ t, ofSettings s = .ok t) ↔ s.Sound) ∧
      (∀ fault, (ofSettings s).mapError SetupFault.fault = .error fault ↔
        ∃ f, s.FirstFault f ∧ fault = .invalidConfiguration f.message) ∧
      ∀ t, ofSettings s = .ok t → ∀ name,
        (∀ subject, t.subject? name = some subject ↔
          ∃ e ∈ s.subjects, e.name = name ∧ subject = ⟨e.id.filter (· ≠ ""), name⟩) ∧
        ∀ grants, t.grants? name = some grants ↔
          ∃ e ∈ s.subjects, e.name = name ∧ grants = e.grants.map GrantSettings.grant := by
  refine ⟨exists_ofSettings_iff, ?_, ?_⟩
  · intro fault
    simp only [← ofSettings_eq_error]
    cases ofSettings s with
    | ok t => simp [Except.mapError]
    | error f => simp [Except.mapError, SetupFault.fault, eq_comm]
  · intro t ht name
    exact ⟨fun _ => subject?_eq_some ht, fun _ => grants?_eq_some ht⟩

/-- Nobody is called bob, and two subjects are called ada. But the second of them has a rule
with a word of its own, and this is written in front of both. -/
example :
    let word : GrantSettings :=
      { resource := .record .pool, methods := [.standard .get, .ofText "get"] }
    (ofSettings
        { signedIn := some "bob"
          subjects := [{ name := "ada" }, { name := "ada", grants := [word] }] }).mapError
      SetupFault.message = .error "grant on 'pool' for subject 'ada' uses custom method 'get'" := by
  rfl

end GrantTable

end AccessGate
