/-
# The rule that settings state

The static backend looks the caller up by name, tests its id, and searches its grants
for one that covers the check. What it answers in the end can be said on the settings
alone: `StaticSettings.Permits` speaks of the subjects and rules as they are written,
and of no table, no look-up and no search.

* `Question.check_eq` : the flat form of a question says what the question says;
* `StaticSettings.Permits.imp` : a permission is kept where its rule has a counterpart;
* `Grant.covers_iff` : a grant covers what the rule it stands for answers;
* `GrantTable.allows_iff` : the decision of a table is that of its settings;
* `GrantTable.check_iff_permits` : so is the answer of the static backend.
-/
import AccessGate.Manager.Static
import AccessGate.Proofs.GrantTable

namespace AccessGate

/-! ## What a question says -/

namespace Question

/-- The action a question is about. System views are read. -/
def action : Question → Action
  | .record _ m _ => .standard m
  | .view _ => .standard .get
  | .customView a _ => a

/-- The one instance a question is about. A record is named in the details, a view of
either sort in the question. -/
def scope : Question → Option String
  | .record _ _ details => details.bind (·.id)
  | .view v => some v.name
  | .customView _ name => some name

/-- The part of a DAG that a question is about. -/
def part : Question → Option DagPart
  | .record .dag _ details => details.bind (·.part)
  | _ => none

/-- The flat form of a question has its resource, action, instance and part. -/
theorem check_eq (q : Question) : q.check = ⟨q.resource, q.action, q.scope, q.part⟩ := by
  cases q with
  | record k m details =>
      cases k <;> cases details <;> rfl
  | view v => rfl
  | customView a name => rfl

end Question

/-! ## What settings say -/

/-- Whether a rule answers a question: it is on the question's resource, lists its
action, and names another instance or part than the question's in neither place. When
two actions count as the same is left open. -/
structure GrantSettings.Answers (same : Action → Action → Prop) (g : GrantSettings)
    (q : Question) : Prop where
  resource : g.resource = q.resource
  action : ∃ a ∈ g.methods, same a q.action
  scope : g.id = none ∨ g.id = q.scope
  part : g.part = none ∨ g.part = q.part

/-- Whether a caller is the configured subject: it has the name, and the id unless none
is configured. -/
structure SubjectSettings.Describes (s : SubjectSettings) (caller : Subject) : Prop where
  name : s.name = caller.name
  id : s.id = none ∨ s.id = some "" ∨ s.id = caller.id

/-- Who a subject is depends on its name and its id. -/
theorem SubjectSettings.Describes.congr {e e' : SubjectSettings} {caller : Subject}
    (h : e.Describes caller) (hname : e'.name = e.name) (hid : e'.id = e.id) :
    e'.Describes caller where
  name := hname.trans h.name
  id := by
    rw [hid]
    exact h.id

namespace StaticSettings

/-- **The rule of the settings.** Someone has to ask, and either everything is allowed or
one of the caller's rules answers the question. -/
def Permits (same : Action → Action → Prop) (s : StaticSettings) (q : Question)
    (caller : Option Subject) : Prop :=
  ∃ c, caller = some c ∧
    (s.mode = .allowAll ∨
      ∃ e ∈ s.subjects, e.Describes c ∧ ∃ g ∈ e.grants, g.Answers same q)

/-- Whether the actions in the settings were read from texts, as those of a configuration
file are. -/
def IsRead (s : StaticSettings) : Prop :=
  ∀ e ∈ s.subjects, ∀ g ∈ e.grants, ∀ a ∈ g.methods, a.IsRead

/-- **A permission is carried over** to settings in the same mode in which each rule that
answers the question has its counterpart, held by the same subject. -/
theorem Permits.imp {same same' : Action → Action → Prop} {s s' : StaticSettings} {q : Question}
    {caller : Option Subject} (h : s.Permits same q caller) (hmode : s'.mode = s.mode)
    (hrule : ∀ e ∈ s.subjects, ∀ g ∈ e.grants, g.Answers same q →
      ∃ e' ∈ s'.subjects, e'.name = e.name ∧ e'.id = e.id ∧
        ∃ g' ∈ e'.grants, g'.Answers same' q) :
    s'.Permits same' q caller := by
  obtain ⟨c, hc, hall | ⟨e, he, hcaller, g, hg, hanswers⟩⟩ := h
  · exact ⟨c, hc, .inl (hmode.trans hall)⟩
  · obtain ⟨e', he', hname, hid, g', hg', hanswers'⟩ := hrule e he g hg hanswers
    exact ⟨c, hc, .inr ⟨e', he', hcaller.congr hname hid, g', hg', hanswers'⟩⟩

/-- Settings permit no less if more actions count as the same. -/
theorem Permits.mono {same same' : Action → Action → Prop} {s : StaticSettings} {q : Question}
    {caller : Option Subject}
    (hsame : ∀ e ∈ s.subjects, ∀ g ∈ e.grants, ∀ a ∈ g.methods, same a q.action → same' a q.action)
    (h : s.Permits same q caller) : s.Permits same' q caller := by
  refine h.imp rfl ?_
  rintro e he g hg ⟨hresource, ⟨a, ha, haction⟩, hscope, hpart⟩
  exact ⟨e, he, rfl, rfl, g, hg,
    ⟨hresource, ⟨a, ha, hsame e he g hg a ha haction⟩, hscope, hpart⟩⟩

/-- Where actions were read, comparing them is comparing how they are spelled. -/
theorem permits_eq_iff_permits_text {s : StaticSettings} {q : Question} (hs : s.IsRead)
    (hq : q.action.IsRead) (caller : Option Subject) :
    s.Permits (· = ·) q caller ↔ s.Permits (fun a b => a.text = b.text) q caller := by
  constructor
  · apply Permits.mono
    intro e he g hg a ha h
    exact congrArg Action.text h
  · apply Permits.mono
    intro e he g hg a ha h
    exact (Action.eq_iff_text_eq (hs e he g hg a ha) hq).mpr h

end StaticSettings

/-! ## What a table decides -/

/-- A restriction admits what it names, and everything if there is none. -/
theorem Grant.admits_iff {α : Type} [DecidableEq α] {restriction asked : Option α} :
    Grant.admits restriction asked = true ↔ restriction = none ∨ restriction = asked := by
  simp [Grant.admits, eq_comm (a := asked)]

/-- A grant covers a question exactly if the rule it stands for answers it. -/
theorem Grant.covers_iff (g : GrantSettings) (q : Question) :
    g.grant.covers q.check = true ↔ g.Answers (· = ·) q := by
  rw [Question.check_eq, Grant.covers]
  simp only [Bool.and_eq_true, decide_eq_true_eq, List.contains_iff_mem, Grant.admits_iff]
  constructor
  · rintro ⟨⟨⟨hresource, haction⟩, hscope⟩, hpart⟩
    exact ⟨hresource, ⟨q.action, haction, rfl⟩, hscope, hpart⟩
  · rintro ⟨hresource, ⟨a, ha, rfl⟩, hscope, hpart⟩
    exact ⟨⟨⟨hresource, ha⟩, hscope⟩, hpart⟩

/-- An entry admits a caller of its name exactly if the id is right. -/
theorem Entry.admits_iff (s : SubjectSettings) (caller : Subject) :
    s.entry.admits caller = true ↔ s.id = none ∨ s.id = some "" ∨ s.id = caller.id := by
  rw [Entry.admits, SubjectSettings.entry, Grant.admits_iff]
  cases hid : s.id with
  | none => simp
  | some id =>
      by_cases hempty : id = ""
      · simp [hempty]
      · simp [hempty, Option.filter]

namespace GrantTable

variable {s : StaticSettings} {t : GrantTable}

/-- The grants that a caller holds in a table are those of the subject it is. -/
theorem mem_grantsFor (h : ofSettings s = .ok t) (caller : Subject) (g : Grant) :
    g ∈ t.grantsFor caller ↔
      ∃ e ∈ s.subjects, e.Describes caller ∧ ∃ r ∈ e.grants, r.grant = g := by
  -- names are unique, so the entry found by name is the only one that can speak for the caller
  have hfind := @find?_of_ofSettings s t h caller.name
  rw [grantsFor]
  constructor
  · intro hg
    split at hg
    · next e he =>
      obtain ⟨e', he', hname, rfl⟩ := hfind.mp he
      split at hg
      · next hadmits =>
        obtain ⟨r, hr, rfl⟩ := List.mem_map.mp hg
        exact ⟨e', he', ⟨hname, (Entry.admits_iff e' caller).mp hadmits⟩, r, hr, rfl⟩
      · cases hg
    · cases hg
  · rintro ⟨e, he, ⟨hname, hid⟩, r, hr, rfl⟩
    rw [hfind.mpr ⟨e, he, hname, rfl⟩]
    simp only [(Entry.admits_iff e caller).mpr hid, if_true]
    exact List.mem_map_of_mem hr

/-- A table allows what its settings permit. -/
theorem allows_iff (h : ofSettings s = .ok t) (q : Question) (caller : Option Subject) :
    t.allows q.check caller = true ↔ s.Permits (· = ·) q caller := by
  cases caller with
  | none => simp [StaticSettings.Permits]
  | some c =>
      rw [allows, mode_of_ofSettings h]
      cases hmode : s.mode with
      | allowAll => simp [StaticSettings.Permits, hmode]
      | staticGrants =>
          simp only [List.any_eq_true, mem_grantsFor h]
          constructor
          · rintro ⟨g, ⟨e, he, hcaller, r, hr, rfl⟩, hcovers⟩
            exact ⟨c, rfl, .inr ⟨e, he, hcaller, r, hr, (Grant.covers_iff r q).mp hcovers⟩⟩
          · rintro ⟨_, ⟨⟩, hall | ⟨e, he, hcaller, r, hr, hrule⟩⟩
            · rw [hmode] at hall
              cases hall
            · exact ⟨r.grant, ⟨e, he, hcaller, r, hr, rfl⟩, (Grant.covers_iff r q).mpr hrule⟩

/-- The static backend answers what its table allows. -/
@[simp]
theorem value_check (t : GrantTable) (i : Inquiry) :
    (t.manager.check i).value = t.allows i.question.check i.subject :=
  rfl

/-- **The static backend follows the rule of its settings**, for every question and every
caller. Two actions are the same if they are equal; for actions that were read from
texts this means that they are spelled exactly alike. -/
theorem check_iff_permits (h : ofSettings s = .ok t) (q : Question) (caller : Option Subject) :
    ((t.manager.check ⟨q, caller⟩).value = true ↔ s.Permits (· = ·) q caller) ∧
      (s.IsRead → q.action.IsRead →
        ((t.manager.check ⟨q, caller⟩).value = true ↔
          s.Permits (fun a b => a.text = b.text) q caller)) := by
  have hrule : (t.manager.check ⟨q, caller⟩).value = true ↔ s.Permits (· = ·) q caller := by
    rw [value_check, allows_iff h]
  refine ⟨hrule, ?_⟩
  intro hs hq
  rw [hrule, StaticSettings.permits_eq_iff_permits_text hs hq]

/-- A rule that lists a word of its own, under a name whose configured id is empty, is met
by a caller with an id, and by the word as it is spelled. -/
theorem check_iff_permits_own_word :
    let rule : GrantSettings := { resource := .customView, methods := [.ofText "can_do"] }
    let ada : SubjectSettings := { name := "ada", id := some "", grants := [rule] }
    let s : StaticSettings := { mode := .staticGrants, subjects := [ada] }
    let t : GrantTable := ⟨.staticGrants, [ada.entry], none⟩
    let q : Question := .customView (.ofText "can_do") "reports"
    let caller : Option Subject := some (.withId "7" "ada")
    ofSettings s = .ok t ∧ s.IsRead ∧ q.action.IsRead ∧
      (t.manager.check ⟨q, caller⟩).value = true ∧ s.Permits (· = ·) q caller ∧
      s.Permits (fun a b => a.text = b.text) q caller := by
  intro rule ada s t q caller
  have hbuilt : ofSettings s = .ok t := by rfl
  have hs : s.IsRead := by
    simp [StaticSettings.IsRead, s, ada, rule, Action.isRead_ofText]
  have hq : q.action.IsRead := Action.isRead_ofText "can_do"
  have hcheck : (t.manager.check ⟨q, caller⟩).value = true := by decide
  have hrule := check_iff_permits hbuilt q caller
  exact ⟨hbuilt, hs, hq, hcheck, hrule.1.mp hcheck, (hrule.2 hs hq).mp hcheck⟩

end GrantTable

end AccessGate
