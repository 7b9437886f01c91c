/-
# Actions and their spellings

Texts become methods by three readers. Two of them go by the exact spelling, the third lets the
case of letters pass; and an action is read from any text. What keeps the comparison of actions
sound is that each of them that comes from outside has been read from a text: no such action is
the spelling of a method without being the method. So actions are the same exactly if they are
spelled the same, and the spelling of a method in another case is never taken for the method.

* `Action.FromText` : where actions come from;
* `Action.FromText.isRead` : such an action is the one that its text is read as;
* `Grant.covers_iff_text` : a grant lists an action if it lists its spelling;
* `Grant.covers_insert_misspelt` : a method in another case counts for nothing where a method is
  asked about;
* `Action.spelling_decides` : all of it.
-/
import AccessGate.Proofs.CheckCommand
import AccessGate.Proofs.Fields
import AccessGate.Proofs.Permission
import AccessGate.Proofs.RoundTrip
import AccessGate.Settings.Load

namespace AccessGate

open Document

/-- The exact spelling of a method is the only one that it is found by. -/
theorem Method.ofName?_eq_some_iff {s : String} {m : Method} : ofName? s = some m ↔ m.name = s :=
  Vocabulary.ofName?_eq_some_iff

/-! ## Members that hold lists -/

section Lists

variable {δ α : Type} [Document δ] {read : δ → Option α} {name : String} {fs : Fields δ}
  {l : List α} {a : α}

/-- What is in a list that was read has been read. -/
theorem exists_of_list? {d : δ} (h : list? read d = some l) (ha : a ∈ l) :
    ∃ d, read d = some a := by
  obtain ⟨ds, -, hds⟩ := Option.bind_eq_some_iff.mp h
  obtain ⟨d', -, hread⟩ := exists_of_mapM hds ha
  exact ⟨d', hread⟩

/-- The same for a list that has to be there. -/
theorem exists_of_required (h : fs.required name (list? read) = some l) (ha : a ∈ l) :
    ∃ d, read d = some a := by
  obtain ⟨d, -, hd⟩ := Option.bind_eq_some_iff.mp h
  exact exists_of_list? hd ha

/-- What is in a list that may be missing has been read. -/
theorem exists_of_orDefault (h : fs.orDefault name [] (list? read) = some l) (ha : a ∈ l) :
    ∃ d, read d = some a := by
  rcases Fields.eq_or_exists_of_orDefault h with rfl | ⟨d, hd⟩
  · cases ha
  · exact exists_of_list? hd ha

end Lists

/-! ## What is read has been read from texts -/

section Settings

variable {δ : Type} [Document δ] {d : δ}

/-- The actions of a grant are read from texts. -/
theorem GrantSettings.isRead_of_read? {g : GrantSettings} (h : read? d = some g) {a : Action}
    (ha : a ∈ g.methods) : a.IsRead := by
  simp only [read?, Option.bind_eq_bind, Option.bind_eq_some_iff, Option.pure_def,
    Option.some.injEq] at h
  obtain ⟨fs, -, resource, -, methods, hmethods, id, -, part, -, rfl⟩ := h
  obtain ⟨d', hread⟩ := exists_of_required hmethods ha
  exact Action.isRead_of_read? hread

/-- So are those of a subject's grants. -/
theorem SubjectSettings.exists_of_read? {e : SubjectSettings} (h : read? d = some e)
    {g : GrantSettings} (hg : g ∈ e.grants) : ∃ d : δ, GrantSettings.read? d = some g := by
  simp only [read?, Option.bind_eq_bind, Option.bind_eq_some_iff, Option.pure_def,
    Option.some.injEq] at h
  obtain ⟨fs, -, name, -, id, -, grants, hgrants, rfl⟩ := h
  exact exists_of_orDefault hgrants hg

/-- Settings that are read have actions that are read. -/
theorem StaticSettings.isRead_of_read? {s : StaticSettings} (h : read? d = some s) : s.IsRead := by
  simp only [read?, Option.bind_eq_bind, Option.bind_eq_some_iff, Option.pure_def,
    Option.some.injEq] at h
  obtain ⟨fs, -, vendor, -, priority, -, mode, -, signedIn, -, subjects, hsubjects, dagIds, -, rfl⟩ :=
    h
  intro e he g hg a ha
  obtain ⟨d', he'⟩ := exists_of_orDefault hsubjects he
  obtain ⟨d'', hg'⟩ := SubjectSettings.exists_of_read? he' hg
  exact GrantSettings.isRead_of_read? hg' ha

/-- So has a configuration. The default has no actions. -/
theorem AppSettings.isRead_of_read? {s : AppSettings} (h : read? d = some s) : s.static.IsRead := by
  simp only [read?, Option.bind_eq_bind, Option.bind_eq_some_iff, Option.pure_def,
    Option.some.injEq] at h
  obtain ⟨fs, -, logging, -, gateway, -, static, hstatic, rfl⟩ := h
  rcases Fields.eq_or_exists_of_orDefault hstatic with rfl | ⟨d', hread⟩
  · exact nofun
  · exact StaticSettings.isRead_of_read? hread

/-- So has one that is loaded from a file or in its absence. -/
theorem AppSettings.isRead_of_load {path : String} {required : Bool} {state : FileState}
    {s : AppSettings} (h : load path required state = .ok s) : s.static.IsRead := by
  cases state with
  | absent =>
      cases required with
      | true => cases h
      | false =>
          cases h
          exact nofun
  | unreadable => cases h
  | text source =>
      cases hyaml : ofYaml? source with
      | none => simp [load, hyaml] at h
      | some settings =>
          simp only [load, hyaml, Except.ok.injEq] at h
          obtain ⟨y, -, hread⟩ := Option.bind_eq_some_iff.mp hyaml
          exact h ▸ AppSettings.isRead_of_read? hread

end Settings

/-- The action that is asked about on the command line is a method or read from a text. -/
theorem CheckArguments.isRead_of_question {a : CheckArguments} {q : Question}
    (h : a.question = .ok q) : q.action.IsRead := by
  cases question_eq_ok_iff.mp h with
  | record => exact Action.isRead_standard _
  | view => exact Action.isRead_standard _
  | customView _ _ _ htext hstandard => exact Action.isRead_iff.mpr (htext ▸ hstandard)

/-! ## Where actions come from -/

/-- Actions come from texts: from a word, from a value of either format, from settings that are
read or loaded, and from the arguments of a check. -/
inductive Action.FromText : Action → Prop where
  | word (s : String) : FromText (ofText s)
  | value {δ : Type} [Document δ] {d : δ} {a : Action} : read? d = some a → FromText a
  | settings {δ : Type} [Document δ] {d : δ} {s : StaticSettings} {e : SubjectSettings}
      {g : GrantSettings} {a : Action} :
      StaticSettings.read? d = some s → e ∈ s.subjects → g ∈ e.grants → a ∈ g.methods → FromText a
  | file {path : String} {required : Bool} {state : FileState} {s : AppSettings}
      {e : SubjectSettings} {g : GrantSettings} {a : Action} :
      AppSettings.load path required state = .ok s → e ∈ s.static.subjects → g ∈ e.grants →
        a ∈ g.methods → FromText a
  | arguments {args : CheckArguments} {q : Question} :
      args.question = .ok q → FromText q.action

namespace Action

variable {a b : Action} {s : String}

/-- **Whatever comes from a text is what its own text is read as.** -/
theorem FromText.isRead (h : a.FromText) : a.IsRead := by
  cases h with
  | word s => exact isRead_ofText s
  | value hread => exact isRead_of_read? hread
  | settings hread he hg ha => exact StaticSettings.isRead_of_read? hread _ he _ hg a ha
  | file hload he hg ha => exact AppSettings.isRead_of_load hload _ he _ hg a ha
  | arguments hread => exact CheckArguments.isRead_of_question hread

/-- A method is read from its exact spelling. -/
theorem ofText_eq_standard_iff {m : Method} : ofText s = .standard m ↔ m.name = s := by
  constructor
  · intro h
    rw [← text_ofText s, h, text]
  · rintro rfl
    exact isRead_standard m

/-- So what is read is a method if and only if the text is the exact spelling of one. -/
theorem isStandard_ofText_iff : (ofText s).isStandard = true ↔ ∃ m : Method, m.name = s := by
  simpa only [text_ofText] using isRead_iff.mp (isRead_ofText s)

/-- Among actions that come from texts, one is listed if its spelling is. -/
theorem mem_iff_text_mem {as : List Action} (has : ∀ a ∈ as, a.FromText) (hb : b.FromText) :
    b ∈ as ↔ b.text ∈ as.map text := by
  constructor
  · exact List.mem_map_of_mem
  · intro h
    obtain ⟨a, ha, htext⟩ := List.mem_map.mp h
    have heq : a = b := (eq_iff_text_eq (has a ha).isRead hb.isRead).mpr htext
    exact heq ▸ ha

end Action

/-! ## What a grant covers -/

namespace Grant

variable {g : Grant} {c : Check} {s : String}

/-- **A grant lists an action if it lists its spelling**, where both come from texts. -/
theorem covers_iff_text (hg : ∀ a ∈ g.methods, a.FromText) (hc : c.action.FromText) :
    g.covers c = true ↔ g.resource = c.resource ∧ c.action.text ∈ g.methods.map Action.text ∧
      admits g.id c.scope = true ∧ admits g.part c.part = true := by
  rw [← Action.mem_iff_text_mem hg hc, covers]
  simp only [Bool.and_eq_true, decide_eq_true_eq, List.contains_iff_mem, and_assoc]

/-- **What is not the exact spelling of a method counts for nothing** where a method is asked
about: a grant covers the same checks with it and without. -/
theorem covers_insert_misspelt (hs : Method.ofName? s = none) (hc : c.action.isStandard = true)
    (r : Resource) (front behind : List Action) (id : Option String) (part : Option DagPart) :
    covers ⟨r, front ++ .ofText s :: behind, id, part⟩ c =
      covers ⟨r, front ++ behind, id, part⟩ c := by
  have hne : c.action ≠ .ofText s := by
    intro heq
    obtain ⟨m, hm⟩ := Action.isStandard_ofText_iff.mp (heq ▸ hc)
    exact Vocabulary.ofName?_eq_none_iff.mp hs m hm
  have hmem : (front ++ .ofText s :: behind).contains c.action =
      (front ++ behind).contains c.action := by
    rw [Bool.eq_iff_iff, List.contains_iff_mem, List.contains_iff_mem, List.mem_append,
      List.mem_append, List.mem_cons]
    simp only [hne, false_or]
  rw [covers, covers, hmem]

end Grant

/-- **The spelling decides.** Every text is read as an action and kept as it is. It is read as a
method if it is the exact spelling of one, in capitals; where case is let pass, a text is read as
the method that its capitals spell. Actions that come from texts are the same if their spellings
are, so what a grant lists is told by spellings too. And what is a method only with its case let
pass is never the method that a check asks about. -/
theorem Action.spelling_decides :
    (∀ s, (ofText s).text = s ∧
      ((ofText s).isStandard = true ↔ (Method.ofName? s).isSome = true) ∧
      ∀ m : Method, (ofText s = .standard m ↔ m.name = s) ∧
        (Method.ofName? s = some m ↔ m.name = s) ∧
        (Method.parse s = .ok m ↔ m.name = s.map Char.toUpper)) ∧
    (∀ a b : Action, a.FromText → b.FromText → (a = b ↔ a.text = b.text)) ∧
    (∀ (g : Grant) (c : Check), (∀ a ∈ g.methods, a.FromText) → c.action.FromText →
      (g.covers c = true ↔ g.resource = c.resource ∧ c.action.text ∈ g.methods.map text ∧
        Grant.admits g.id c.scope = true ∧ Grant.admits g.part c.part = true)) ∧
    ∀ s m, Method.parse s = .ok m → Method.ofName? s = none →
      ∀ (c : Check) (r : Resource) (front behind : List Action) (id : Option String)
        (part : Option DagPart), c.action.isStandard = true →
          Grant.covers ⟨r, front ++ ofText s :: behind, id, part⟩ c =
            Grant.covers ⟨r, front ++ behind, id, part⟩ c := by
  refine ⟨fun s => ⟨text_ofText s, ?_, fun m => ⟨ofText_eq_standard_iff,
    Method.ofName?_eq_some_iff, ?_⟩⟩, ?_, ?_, ?_⟩
  · rw [isStandard_ofText_iff, Option.isSome_iff_exists]
    simp only [Method.ofName?_eq_some_iff]
  · rw [Method.parse_eq_ok_iff, Method.sameUpToCase_name_iff]
  · intro a b ha hb
    exact eq_iff_text_eq ha.isRead hb.isRead
  · intro g c hg hc
    exact Grant.covers_iff_text hg hc
  · intro s m _ hs c r front behind id part hc
    exact Grant.covers_insert_misspelt hs hc r front behind id part

/-- A grant on views with `get` covers a check about this word. One about the method it does not
cover, although that is the method which `get` is read as where case is let pass. -/
theorem Action.spelling_decides_get :
    Method.parse "get" = .ok .get ∧
      Grant.covers ⟨.customView, [ofText "get"], none, none⟩
        ⟨.customView, ofText "get", some "reports", none⟩ = true ∧
      Grant.covers ⟨.customView, [] ++ ofText "get" :: [], none, none⟩
        ⟨.customView, .standard .get, some "reports", none⟩ =
      Grant.covers ⟨.customView, [] ++ [], none, none⟩
        ⟨.customView, .standard .get, some "reports", none⟩ := by
  obtain ⟨hread, -, hlisted, hmisspelt⟩ := spelling_decides
  have hparse : Method.parse "get" = .ok .get := Method.parse_eq_ok_iff.mpr (by decide)
  refine ⟨hparse, (hlisted _ _ ?_ (.word "get")).mpr ⟨rfl, List.mem_cons_self, rfl, rfl⟩,
    hmisspelt "get" .get hparse (by decide) _ _ _ _ _ _ rfl⟩
  intro a ha
  rw [List.mem_singleton.mp ha]
  exact .word "get"

end AccessGate
