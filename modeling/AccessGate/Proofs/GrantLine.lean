/-
# The line of a grant

Operators see a grant as one line: what it is on, the instance or a star, the methods, and the
part in brackets. Ids and the words of custom views are written as they are, so a line does not
always say which grant it is of. There are four ways to take a grant for another, and no more. A
grant for the instance `*` has the line of a blanket grant. The others are about custom views: a
word with a space can be taken for the end of an id, a word with a comma can be taken for two, and
a method's spelling that was kept as a word is written like the method.

* `Grant.covers_eq_iff` : grants have the same reach if they are the same rule;
* `Grant.Resembles` : the four ways to take a grant for another;
* `GrantSettings.sameRule_or_resembles` : with one line, grants are the same rule or resemble each
  other;
* `Grant.covers_eq_iff_of_describe_eq` : what the line of a grant says of its reach.
-/
import AccessGate.Proofs.Permission

namespace AccessGate

/-! ## Texts with separators -/

section Separators

variable {α : Type} {c : α} {a a' b b' : List α}

/-- If a text is split at a separator in two ways, then one of the ways has separators on both
sides of the other. -/
theorem split_unique (h : a ++ c :: b = a' ++ c :: b') :
    a = a' ∧ b = b' ∨ c ∈ a ∧ c ∈ b' ∨ c ∈ a' ∧ c ∈ b := by
  induction a generalizing a' with
  | nil =>
      cases a' with
      | nil => exact .inl ⟨rfl, (List.cons.inj h).2⟩
      | cons d a' =>
          obtain ⟨rfl, rfl⟩ := List.cons.inj h
          exact .inr (.inr (by simp))
  | cons d a ih =>
      cases a' with
      | nil =>
          obtain ⟨rfl, rfl⟩ := List.cons.inj h
          exact .inr (.inl (by simp))
      | cons d' a' =>
          obtain ⟨rfl, htail⟩ := List.cons.inj h
          rcases ih htail with ⟨rfl, rfl⟩ | ⟨ha, hb'⟩ | ⟨ha', hb⟩
          · exact .inl ⟨rfl, rfl⟩
          · exact .inr (.inl ⟨List.mem_cons_of_mem d ha, hb'⟩)
          · exact .inr (.inr ⟨List.mem_cons_of_mem d ha', hb⟩)

/-- There is one way to split it if there is no separator in front of any of them. -/
theorem split_front (ha : c ∉ a) (ha' : c ∉ a') (h : a ++ c :: b = a' ++ c :: b') :
    a = a' ∧ b = b' := by
  rcases split_unique h with h | h | h
  · exact h
  · exact absurd h.1 ha
  · exact absurd h.1 ha'

/-- The same if there is none behind. -/
theorem split_behind (hb : c ∉ b) (hb' : c ∉ b') (h : a ++ c :: b = a' ++ c :: b') :
    a = a' ∧ b = b' := by
  rcases split_unique h with h | h | h
  · exact h
  · exact absurd h.2 hb'
  · exact absurd h.2 hb

/-- What is in a list of texts is in one of them or is the separator. -/
theorem mem_intercalate {d : α} {l : List (List α)} (h : d ∈ [c].intercalate l) :
    d = c ∨ ∃ w ∈ l, d ∈ w := by
  induction l with
  | nil => simp at h
  | cons w l ih =>
      cases l with
      | nil => exact .inr ⟨w, by simpa using h⟩
      | cons w' l =>
          rw [List.intercalate_cons_cons, List.mem_append, List.mem_append, List.mem_singleton] at h
          rcases h with (h | h) | h
          · exact .inr ⟨w, List.mem_cons_self, h⟩
          · exact .inl h
          · rcases ih h with h | ⟨w'', hw'', h⟩
            · exact .inl h
            · exact .inr ⟨w'', List.mem_cons_of_mem w hw'', h⟩

end Separators

/-! ## Words without separators -/

/-- Methods are written in capitals. -/
theorem Action.isUpper_of_isStandard {a : Action} (ha : a.isStandard = true) :
    ∀ d ∈ a.text.toList, d.isUpper = true := by
  cases a with
  | standard m =>
      have hall : m.name.toList.all Char.isUpper = true := by cases m <;> rfl
      exact List.all_eq_true.mp hall
  | named w => cases ha

/-- So what has anything else in it is no method. -/
theorem Action.ne_standard_of_mem {a : Action} {d : Char} (hd : d ∈ a.text.toList)
    (hupper : d.isUpper = false) : a.isStandard ≠ true := by
  intro ha
  rw [a.isUpper_of_isStandard ha d hd] at hupper
  cases hupper

/-- There is no space in the name of a resource. -/
theorem Resource.space_notMem_name (r : Resource) : ' ' ∉ r.name.toList := by
  cases r with
  | record k => cases k <;> decide
  | customView => decide
  | view => decide

/-- There is none in the name of a part. -/
theorem DagPart.space_notMem_name (p : DagPart) : ' ' ∉ p.name.toList := by
  cases p <;> decide

namespace Grant

variable {g g' : Grant}

/-! ## The parts of the line -/

/-- The methods as they are listed. -/
def listed (g : Grant) : List Char :=
  [','].intercalate (g.methods.map fun a => a.text.toList)

/-- A part in brackets. -/
def brackets (p : DagPart) : List Char :=
  '(' :: (p.name.toList ++ [')'])

/-- What is behind the methods: the part in brackets, if there is one. -/
def bracketed : Option DagPart → List Char
  | some p => ' ' :: brackets p
  | none => []

/-- How the line is put together. -/
theorem toList_describe (g : Grant) :
    g.describe.toList =
      g.resource.name.toList ++
        ' ' :: ((g.id.getD "*").toList ++ ' ' :: (g.listed ++ bracketed g.part)) := by
  cases hpart : g.part with
  | none => simp [describe, listed, bracketed, hpart, Function.comp_def]
  | some p => simp [describe, listed, bracketed, brackets, hpart, Function.comp_def]

/-- What is in the list of methods is in one of them or is a comma. -/
theorem mem_listed {d : Char} (h : d ∈ g.listed) :
    d = ',' ∨ ∃ a ∈ g.methods, d ∈ a.text.toList := by
  rcases mem_intercalate h with h | ⟨w, hw, h⟩
  · exact .inl h
  · obtain ⟨a, ha, rfl⟩ := List.mem_map.mp hw
    exact .inr ⟨a, ha, h⟩

/-! ## Reading the parts off the line -/

/-- In a list that holds nothing but methods there are capitals and commas. -/
theorem mem_listed_of_standard (h : ∀ a ∈ g.methods, a.isStandard = true) {d : Char}
    (hd : d ∈ g.listed) : d = ',' ∨ d.isUpper = true := by
  rcases mem_listed hd with hd | ⟨a, ha, hd⟩
  · exact .inl hd
  · exact .inr (Action.isUpper_of_isStandard (h a ha) d hd)

/-- A part in brackets is one word. -/
theorem space_notMem_brackets (p : DagPart) : ' ' ∉ brackets p := by
  simp [brackets, p.space_notMem_name]

/-- It is no list of methods. -/
theorem listed_ne_brackets (h : ∀ a ∈ g.methods, a.isStandard = true) (p : DagPart) :
    g.listed ≠ brackets p := by
  intro heq
  have hbracket : '(' ∈ g.listed := heq ▸ List.mem_cons_self
  exact absurd (mem_listed_of_standard h hbracket) (by decide)

/-- A line that ends with a part in brackets has this part as its last word. -/
theorem last_word (p : DagPart) {front front' listed word : List Char} (hword : ' ' ∉ word)
    (h : front ++ ' ' :: word = front' ++ ' ' :: (listed ++ ' ' :: brackets p)) :
    front = front' ++ ' ' :: listed ∧ word = brackets p := by
  rw [← List.cons_append, ← List.append_assoc] at h
  exact split_behind hword (space_notMem_brackets p) h

/-- If nothing but methods is listed, the line can be read from behind: its last word is a part
if it has brackets, and a list of methods otherwise. -/
theorem read_behind (h : ∀ a ∈ g.methods, a.isStandard = true)
    (h' : ∀ a ∈ g'.methods, a.isStandard = true) {front front' : List Char}
    (heq : front ++ ' ' :: (g.listed ++ bracketed g.part) =
      front' ++ ' ' :: (g'.listed ++ bracketed g'.part)) :
    front = front' ∧ g.listed = g'.listed ∧ g.part = g'.part := by
  have hspace : ' ' ∉ g.listed := fun hd => absurd (mem_listed_of_standard h hd) (by decide)
  have hspace' : ' ' ∉ g'.listed := fun hd => absurd (mem_listed_of_standard h' hd) (by decide)
  cases hpart : g.part with
  | none =>
      cases hpart' : g'.part with
      | none =>
          simp only [hpart, hpart', bracketed, List.append_nil] at heq
          obtain ⟨hfront, hlisted⟩ := split_behind hspace hspace' heq
          exact ⟨hfront, hlisted, rfl⟩
      | some p' =>
          simp only [hpart, hpart', bracketed, List.append_nil] at heq
          exact absurd (last_word p' hspace heq).2 (listed_ne_brackets h p')
  | some p =>
      cases hpart' : g'.part with
      | none =>
          simp only [hpart, hpart', bracketed, List.append_nil] at heq
          exact absurd (last_word p hspace' heq.symm).2 (listed_ne_brackets h' p)
      | some p' =>
          simp only [hpart, hpart', bracketed] at heq
          rw [← List.cons_append, ← List.append_assoc] at heq
          obtain ⟨hfront, hword⟩ := last_word p' (space_notMem_brackets p) heq
          obtain ⟨hfront, hlisted⟩ := split_behind hspace hspace' hfront
          have hname : p.name = p'.name := String.toList_inj.mp (by simpa [brackets] using hword)
          exact ⟨hfront, hlisted, congrArg some (LawfulVocabulary.name_injective _ _ hname)⟩

/-- The methods can be read off their list if there is no comma in any of them. -/
theorem splitOn_listed (hmethods : g.methods ≠ []) (hcomma : ∀ a ∈ g.methods, ',' ∉ a.text.toList) :
    g.listed.splitOn ',' = g.methods.map fun a => a.text.toList := by
  refine List.splitOn_intercalate _ ?_ (by simpa using hmethods)
  intro w hw
  obtain ⟨a, ha, rfl⟩ := List.mem_map.mp hw
  exact hcomma a ha

/-- So nothing else is written like them. -/
theorem texts_eq_of_listed_eq (hmethods : g.methods ≠ []) (hmethods' : g'.methods ≠ [])
    (hcomma : ∀ a ∈ g.methods, ',' ∉ a.text.toList)
    (hcomma' : ∀ a ∈ g'.methods, ',' ∉ a.text.toList)
    (h : g.listed = g'.listed) : g.methods.map Action.text = g'.methods.map Action.text := by
  apply List.map_injective_iff.mpr (fun _ _ => String.toList_inj.mp)
  rw [List.map_map, List.map_map]
  change (g.methods.map fun a => a.text.toList) = g'.methods.map fun a => a.text.toList
  rw [← splitOn_listed hmethods hcomma, h, splitOn_listed hmethods' hcomma']

/-! ## The reach of a grant -/

/-- Whether two grants are the same rule, up to the order of their methods and repeated ones. -/
structure SameRule (g g' : Grant) : Prop where
  resource : g.resource = g'.resource
  methods : ∀ a, a ∈ g.methods ↔ a ∈ g'.methods
  id : g.id = g'.id
  part : g.part = g'.part

theorem SameRule.symm (h : g.SameRule g') : g'.SameRule g :=
  ⟨h.resource.symm, fun a => (h.methods a).symm, h.id.symm, h.part.symm⟩

/-- The check that a grant describes, for one of its methods. -/
def ownCheck (g : Grant) (a : Action) : Check :=
  ⟨g.resource, a, g.id, g.part⟩

/-- When a grant covers the check that another describes. -/
theorem covers_ownCheck_iff {a : Action} :
    g'.covers (g.ownCheck a) = true ↔
      g'.resource = g.resource ∧ a ∈ g'.methods ∧ (g'.id = none ∨ g'.id = g.id) ∧
        (g'.part = none ∨ g'.part = g.part) := by
  simp only [covers, Bool.and_eq_true, decide_eq_true_eq, List.contains_iff_mem, admits_iff,
    and_assoc]
  exact Iff.rfl

/-- Restrictions that admit each other are the same. -/
theorem eq_of_admit_each_other {α : Type} {r r' : Option α} (h : r' = none ∨ r' = r)
    (h' : r = none ∨ r = r') : r = r' := by
  rcases h with rfl | rfl
  · rcases h' with h' | h' <;> exact h'
  · rfl

/-- **Grants have the same reach exactly if they are the same rule.** -/
theorem covers_eq_iff (h : g.methods ≠ []) : (∀ c, g.covers c = g'.covers c) ↔ g.SameRule g' := by
  constructor
  · intro hcovers
    -- each of them covers what it describes, so the other covers it too
    have hown : ∀ a ∈ g.methods, g'.resource = g.resource ∧ a ∈ g'.methods ∧
        (g'.id = none ∨ g'.id = g.id) ∧ (g'.part = none ∨ g'.part = g.part) := by
      intro a ha
      rw [← covers_ownCheck_iff, ← hcovers, covers_ownCheck_iff]
      exact ⟨rfl, ha, .inr rfl, .inr rfl⟩
    have hown' : ∀ a ∈ g'.methods, g.resource = g'.resource ∧ a ∈ g.methods ∧
        (g.id = none ∨ g.id = g'.id) ∧ (g.part = none ∨ g.part = g'.part) := by
      intro a ha
      rw [← covers_ownCheck_iff, hcovers, covers_ownCheck_iff]
      exact ⟨rfl, ha, .inr rfl, .inr rfl⟩
    obtain ⟨a, ha⟩ := List.exists_mem_of_ne_nil _ h
    obtain ⟨hresource, ha', hid, hpart⟩ := hown a ha
    obtain ⟨-, -, hid', hpart'⟩ := hown' a ha'
    exact {
      resource := hresource.symm
      methods := fun b => ⟨fun hb => (hown b hb).2.1, fun hb => (hown' b hb).2.1⟩
      id := eq_of_admit_each_other hid hid'
      part := eq_of_admit_each_other hpart hpart' }
  · rintro ⟨hresource, hmethods, hid, hpart⟩ c
    have hcontains : g.methods.contains c.action = g'.methods.contains c.action := by
      rw [Bool.eq_iff_iff, List.contains_iff_mem, List.contains_iff_mem, hmethods]
    rw [covers, covers, hresource, hcontains, hid, hpart]

end Grant

/-! ## Grants that can be taken for each other -/

/-- Whether a grant can be taken for another that has the same line. -/
inductive Grant.Resembles (g g' : Grant) : Prop where
  /-- No id is written as a star, and so is the id that is one. -/
  | star : g.id = none → g'.id = some "*" → Resembles g g'
  /-- The beginning of a word can be taken for the end of an id. -/
  | space {a : Action} {id : String} :
      g.resource = .customView → g.id ≠ g'.id → a ∈ g.methods → ' ' ∈ a.text.toList →
        g'.id = some id → ' ' ∈ id.toList → Resembles g g'
  /-- A word can be taken for two. -/
  | comma {a : Action} :
      g.resource = .customView → (¬∀ b, b ∈ g.methods ↔ b ∈ g'.methods) → a ∈ g.methods →
        ',' ∈ a.text.toList → Resembles g g'
  /-- A word can be a method's spelling without being the method. -/
  | spelling {m : Method} :
      g.resource = .customView → (¬∀ b, b ∈ g.methods ↔ b ∈ g'.methods) →
        .named m.name ∈ g.methods → .standard m ∈ g'.methods → Resembles g g'

namespace Grant

variable {g g' : Grant}

/-- Then they differ in their ids or in their methods. -/
theorem Resembles.differs (h : g.Resembles g') :
    g.id ≠ g'.id ∨ ¬∀ b, b ∈ g.methods ↔ b ∈ g'.methods := by
  cases h with
  | star hid hid' => exact .inl (by rw [hid, hid']; nofun)
  | space _ hid => exact .inl hid
  | comma _ hmethods => exact .inr hmethods
  | spelling _ hmethods => exact .inr hmethods

/-- So they are not the same rule. -/
theorem Resembles.not_sameRule (h : g.Resembles g') : ¬g.SameRule g' :=
  fun hsame => h.differs.elim (· hsame.id) (· hsame.methods)

end Grant

/-- Lists of actions with the same texts are the same, unless one has a word where the other has
the method that is spelled so. -/
theorem Action.eq_or_spelling {as bs : List Action} (h : as.map text = bs.map text) :
    as = bs ∨ ∃ m : Method,
      .standard m ∈ as ∧ .named m.name ∈ bs ∨ .standard m ∈ bs ∧ .named m.name ∈ as := by
  induction as generalizing bs with
  | nil => exact .inl (List.map_eq_nil_iff.mp h.symm).symm
  | cons a as ih =>
      cases bs with
      | nil => cases h
      | cons b bs =>
          obtain ⟨htext, hrest⟩ := List.cons.inj h
          rcases ih hrest with rfl | ⟨m, ⟨hm, hw⟩ | ⟨hm, hw⟩⟩
          · cases a with
            | standard m =>
                cases b with
                | standard m' =>
                    cases LawfulVocabulary.name_injective m m' htext
                    exact .inl rfl
                | named w =>
                    cases htext
                    exact .inr ⟨m, .inl ⟨List.mem_cons_self, List.mem_cons_self⟩⟩
            | named w =>
                cases b with
                | standard m =>
                    cases htext
                    exact .inr ⟨m, .inr ⟨List.mem_cons_self, List.mem_cons_self⟩⟩
                | named w' =>
                    cases htext
                    exact .inl rfl
          · exact .inr ⟨m, .inl ⟨List.mem_cons_of_mem a hm, List.mem_cons_of_mem b hw⟩⟩
          · exact .inr ⟨m, .inr ⟨List.mem_cons_of_mem b hm, List.mem_cons_of_mem a hw⟩⟩

namespace GrantSettings

variable {s s' : GrantSettings}

/-- Only DAGs have parts. -/
theorem Sound.part_eq_none (hs : s.Sound) (hview : s.resource = .customView) : s.part = none := by
  by_contra hpart
  rw [hs.part hpart] at hview
  cases hview

/-- Only custom views have words of their own. -/
theorem Sound.customView (hs : s.Sound) {a : Action} (ha : a ∈ s.methods)
    (hword : a.isStandard ≠ true) : s.resource = .customView := by
  by_contra hresource
  exact hword (hs.standard hresource a ha)

/-- What is written for the methods is written for no others, unless there is a comma or a
method's spelling in them. -/
theorem methods_eq_or_resembles (hs : s.Sound) (hs' : s'.Sound)
    (hlisted : s.grant.listed = s'.grant.listed) :
    (∀ a, a ∈ s.methods ↔ a ∈ s'.methods) ∨ s.grant.Resembles s'.grant ∨
      s'.grant.Resembles s.grant := by
  by_cases hmethods : ∀ a, a ∈ s.methods ↔ a ∈ s'.methods
  · exact .inl hmethods
  have hmethods' : ¬∀ a, a ∈ s'.methods ↔ a ∈ s.methods :=
    fun h => hmethods fun a => (h a).symm
  by_cases hcomma : ∃ a ∈ s.methods, ',' ∈ a.text.toList
  · obtain ⟨a, ha, hcomma⟩ := hcomma
    have hview := hs.customView ha (Action.ne_standard_of_mem hcomma (by decide))
    exact .inr (.inl (.comma hview hmethods ha hcomma))
  by_cases hcomma' : ∃ a ∈ s'.methods, ',' ∈ a.text.toList
  · obtain ⟨a, ha, hcomma'⟩ := hcomma'
    have hview := hs'.customView ha (Action.ne_standard_of_mem hcomma' (by decide))
    exact .inr (.inr (.comma hview hmethods' ha hcomma'))
  have htexts : s.methods.map Action.text = s'.methods.map Action.text :=
    Grant.texts_eq_of_listed_eq (show s.grant.methods ≠ [] from hs.methods)
      (show s'.grant.methods ≠ [] from hs'.methods) (fun a ha h => hcomma ⟨a, ha, h⟩)
      (fun a ha h => hcomma' ⟨a, ha, h⟩) hlisted
  rcases Action.eq_or_spelling htexts with heq | ⟨m, ⟨hm, hw⟩ | ⟨hm, hw⟩⟩
  · exact .inl fun a => by rw [heq]
  · exact .inr (.inr (.spelling (hs'.customView hw nofun) hmethods' hw hm))
  · exact .inr (.inl (.spelling (hs.customView hw nofun) hmethods hw hm))

/-- What is written for an id is written for no other, except the star. -/
theorem id_eq_or_resembles (h : s.id.getD "*" = s'.id.getD "*") :
    s.id = s'.id ∨ s.grant.Resembles s'.grant ∨ s'.grant.Resembles s.grant := by
  cases hs : s.id with
  | none =>
      cases hs' : s'.id with
      | none => exact .inl rfl
      | some id' =>
          rw [hs, hs'] at h
          exact .inr (.inl (.star hs (hs'.trans (congrArg some h.symm))))
  | some id =>
      cases hs' : s'.id with
      | none =>
          rw [hs, hs'] at h
          exact .inr (.inr (.star hs' (hs.trans (congrArg some h))))
      | some id' =>
          rw [hs, hs'] at h
          exact .inl (congrArg some h)

/-- If there is a space in the methods of one and in the id of the other, they can be taken for
each other. -/
theorem resembles_of_space (hview : s.resource = .customView) (hne : s.id ≠ s'.id)
    (hlisted : ' ' ∈ s.grant.listed) (hid : ' ' ∈ (s'.id.getD "*").toList) :
    s.grant.Resembles s'.grant := by
  rcases Grant.mem_listed hlisted with hcomma | ⟨a, ha, hspace⟩
  · exact absurd hcomma (by decide)
  · cases hs' : s'.id with
    | none =>
        rw [hs'] at hid
        exact absurd hid (by decide)
    | some id =>
        rw [hs'] at hid
        exact .space hview hne ha hspace hs' hid

/-- What is written for the id and the methods is written for no others, unless grants can be
taken for each other. -/
theorem id_listed_eq_or_resembles (hs : s.Sound) (hs' : s'.Sound)
    (hresource : s.resource = s'.resource)
    (h : (s.id.getD "*").toList ++ ' ' :: (s.grant.listed ++ Grant.bracketed s.part) =
      (s'.id.getD "*").toList ++ ' ' :: (s'.grant.listed ++ Grant.bracketed s'.part)) :
    (s.id = s'.id ∧ s.grant.listed = s'.grant.listed ∧ s.part = s'.part) ∨
      s.grant.Resembles s'.grant ∨ s'.grant.Resembles s.grant := by
  by_cases hview : s.resource = .customView
  · have hview' : s'.resource = .customView := hresource ▸ hview
    have hpart : s.part = none := hs.part_eq_none hview
    have hpart' : s'.part = none := hs'.part_eq_none hview'
    simp only [hpart, hpart', Grant.bracketed, List.append_nil] at h
    by_cases hid : s.id = s'.id
    · rw [hid] at h
      exact .inl ⟨hid, (List.cons.inj (List.append_cancel_left h)).2, hpart.trans hpart'.symm⟩
    rcases split_unique h with ⟨hstar, -⟩ | ⟨hspace, hlisted⟩ | ⟨hspace, hlisted⟩
    · exact .inr ((id_eq_or_resembles (String.toList_inj.mp hstar)).resolve_left hid)
    · exact .inr (.inr (resembles_of_space hview' (Ne.symm hid) hlisted hspace))
    · exact .inr (.inl (resembles_of_space hview hid hlisted hspace))
  · have hview' : s'.resource ≠ .customView := hresource ▸ hview
    obtain ⟨hstar, hlisted, hpart⟩ :=
      Grant.read_behind (hs.standard hview) (hs'.standard hview') h
    rcases id_eq_or_resembles (String.toList_inj.mp hstar) with hid | hresembles
    · exact .inl ⟨hid, hlisted, hpart⟩
    · exact .inr hresembles

/-- **Grants with one line are the same rule or can be taken for each other.** -/
theorem sameRule_or_resembles (hs : s.Sound) (hs' : s'.Sound)
    (hline : s.grant.describe = s'.grant.describe) :
    s.grant.SameRule s'.grant ∨ s.grant.Resembles s'.grant ∨ s'.grant.Resembles s.grant := by
  have hchars : s.grant.describe.toList = s'.grant.describe.toList := congrArg String.toList hline
  rw [Grant.toList_describe, Grant.toList_describe] at hchars
  obtain ⟨hname, hrest⟩ :=
    split_front s.resource.space_notMem_name s'.resource.space_notMem_name hchars
  have hresource : s.resource = s'.resource :=
    LawfulVocabulary.name_injective _ _ (String.toList_inj.mp hname)
  rcases id_listed_eq_or_resembles hs hs' hresource hrest with ⟨hid, hlisted, hpart⟩ | hresembles
  · rcases methods_eq_or_resembles hs hs' hlisted with hmethods | hresembles
    · exact .inl ⟨hresource, hmethods, hid, hpart⟩
    · exact .inr hresembles
  · exact .inr hresembles

end GrantSettings

namespace Grant

/-- **What the line of a grant says of its reach.** Two grants with one line cover the same checks
unless they can be taken for each other: if one has no id and the other the id `*`, or if they are
for custom views and a word with a space, a word with a comma or a method's spelling as a word is
read in another way. Then there is a check that one of them covers and the other does not. -/
theorem covers_eq_iff_of_describe_eq {subject subject' : String} {s s' : GrantSettings}
    {g g' : Grant} (hg : ofSettings subject s = .ok g) (hg' : ofSettings subject' s' = .ok g')
    (hline : g.describe = g'.describe) :
    (∀ c, g.covers c = g'.covers c) ↔ ¬g.Resembles g' ∧ ¬g'.Resembles g := by
  obtain ⟨hs, rfl⟩ := ofSettings_eq_ok.mp hg
  obtain ⟨hs', rfl⟩ := ofSettings_eq_ok.mp hg'
  rw [covers_eq_iff hs.methods]
  constructor
  · intro hsame
    exact ⟨fun h => h.not_sameRule hsame, fun h => h.not_sameRule hsame.symm⟩
  · rintro ⟨hunlike, hunlike'⟩
    rcases GrantSettings.sameRule_or_resembles hs hs' hline with hsame | h | h
    · exact hsame
    · exact absurd h hunlike
    · exact absurd h hunlike'

/-- A grant on every DAG and one on the DAG `*` have one line, but not the same reach. Two words
that are listed in another order can have one line too, and these grants have the same reach. -/
theorem covers_eq_iff_of_star :
    (¬∀ c, Grant.covers ⟨.record .dag, [.standard .get], none, none⟩ c =
      Grant.covers ⟨.record .dag, [.standard .get], some "*", none⟩ c) ∧
    ∀ c, Grant.covers ⟨.customView, [.named "x,x", .named "x"], some "a", none⟩ c =
      Grant.covers ⟨.customView, [.named "x", .named "x,x"], some "a", none⟩ c := by
  constructor
  · have hiff := covers_eq_iff_of_describe_eq
      (show ofSettings "alice" ⟨.record .dag, [.standard .get], none, none⟩ = .ok _ from rfl)
      (show ofSettings "bob" ⟨.record .dag, [.standard .get], some "*", none⟩ = .ok _ from rfl)
      (by decide)
    exact fun h => (hiff.mp h).1 (.star rfl rfl)
  · have hiff := covers_eq_iff_of_describe_eq
      (show ofSettings "alice" ⟨.customView, [.named "x,x", .named "x"], some "a", none⟩ = .ok _
        from rfl)
      (show ofSettings "bob" ⟨.customView, [.named "x", .named "x,x"], some "a", none⟩ = .ok _
        from rfl)
      (by decide)
    refine hiff.mpr ⟨fun h => ?_, fun h => ?_⟩
    · exact h.differs.elim (· rfl) (· fun b => by simp [or_comm])
    · exact h.differs.elim (· rfl) (· fun b => by simp [or_comm])

/-- Whether two rules are accepted as grants with one line, and a check tells them apart. -/
def Mistakable (s s' : GrantSettings) : Prop :=
  ∃ g g' c, ofSettings "alice" s = .ok g ∧ ofSettings "bob" s' = .ok g' ∧
    g.describe = g'.describe ∧ g.covers c ≠ g'.covers c

/-- **The line of a grant does not say its reach.** A star can be an id, a space can be in an id or
in a word, a comma can be between words or in one, and a method can be a word. -/
theorem exists_mistakable :
    Mistakable ⟨.record .dag, [.standard .get], none, none⟩
        ⟨.record .dag, [.standard .get], some "*", none⟩ ∧
      Mistakable ⟨.customView, [.named "b c"], some "a", none⟩
        ⟨.customView, [.named "c"], some "a b", none⟩ ∧
      Mistakable ⟨.customView, [.named "b,c"], some "a", none⟩
        ⟨.customView, [.named "b", .named "c"], some "a", none⟩ ∧
      Mistakable ⟨.customView, [.named "GET"], some "a", none⟩
        ⟨.customView, [.standard .get], some "a", none⟩ :=
  ⟨⟨_, _, ⟨.record .dag, .standard .get, none, none⟩, rfl, rfl, by decide, by decide⟩,
    ⟨_, _, ⟨.customView, .named "c", some "a b", none⟩, rfl, rfl, by decide, by decide⟩,
    ⟨_, _, ⟨.customView, .named "c", some "a", none⟩, rfl, rfl, by decide, by decide⟩,
    ⟨_, _, ⟨.customView, .standard .get, some "a", none⟩, rfl, rfl, by decide, by decide⟩⟩

end Grant

end AccessGate
