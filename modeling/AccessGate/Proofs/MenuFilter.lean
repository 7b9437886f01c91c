/-
# What the menu filter asks

The menu filter goes through the entries in order. It asks about an entry, and only if it is to
be shown about each of its children, in order; what is below a child is not asked about. This
is so with every backend, also with one whose answers change from question to question.

The tree is not rebuilt: an entry that is shown keeps its name, its label and where it leads,
and a child that is shown stays as it is, with everything below it.

* `Visit` : what comes of one entry, with what is said about it;
* `MenuItem.shown` : the menu that is left if what is allowed is settled, and
  `MenuItem.shown_shown` : nothing more is left out of it;
* `Derived.filterMenu_visits` : the filter is a visit to each entry;
* `Derived.filterMenu_comesTo` : what the filter asks and answers.
-/
import AccessGate.Manager
import AccessGate.Proofs.Talk

namespace AccessGate

open Talk

/-! ## Visits -/

/-- The question whether a subject may open the entry of a name. -/
def menuQuestion (subject : Option Subject) (name : String) : Inquiry :=
  ⟨.customView (.standard .menu) name, subject⟩

/-- What comes of one entry of a menu: whether it is shown, and the answers about its children,
of which there are none unless it is. -/
structure Visit where
  item : MenuItem
  shown : Bool
  below : List (MenuItem × Bool)
  below_eq : below.map Prod.fst = if shown then item.children else []

namespace Visit

/-- What is said about an entry and, behind it, about its children. -/
def talk (subject : Option Subject) (v : Visit) : Talk :=
  (menuQuestion subject v.item.name, v.shown) ::
    v.below.map fun c => (menuQuestion subject c.1.name, c.2)

/-- What is left of the entry: nothing if it is not shown, and otherwise the entry with the
children that are. -/
def kept (v : Visit) : List MenuItem :=
  if v.shown then
    [.mk v.item.name v.item.label v.item.href ((v.below.filter Prod.snd).map Prod.fst)]
  else []

end Visit

/-! ## Menus of settled answers -/

namespace MenuItem

/-- The entries whose names are allowed, each with those of its children whose names are. -/
def shown (allowed : String → Bool) (items : List MenuItem) : List MenuItem :=
  (items.filter fun item => allowed item.name).map fun item =>
    .mk item.name item.label item.href (item.children.filter fun c => allowed c.name)

/-- An entry in front is shown if its name is allowed. -/
theorem shown_cons (allowed : String → Bool) (item : MenuItem) (items : List MenuItem) :
    shown allowed (item :: items) =
      (if allowed item.name then
        [.mk item.name item.label item.href (item.children.filter fun c => allowed c.name)]
      else []) ++ shown allowed items := by
  rw [shown, List.filter_cons]
  split <;> rfl

/-- What is shown of a menu is what is shown of each entry. -/
theorem flatMap_shown (allowed : String → Bool) (items : List MenuItem) :
    (items.flatMap fun item => shown allowed [item]) = shown allowed items := by
  induction items with
  | nil => rfl
  | cons item items ih => rw [List.flatMap_cons, ih, shown_cons, shown_cons, List.append_assoc]; rfl

/-- What is shown is allowed, entries and their children. -/
theorem allowed_of_mem_shown {allowed : String → Bool} {items : List MenuItem} {item : MenuItem}
    (h : item ∈ shown allowed items) :
    allowed item.name = true ∧ ∀ c ∈ item.children, allowed c.name = true := by
  obtain ⟨item', hitem', rfl⟩ := List.mem_map.mp h
  exact ⟨(List.mem_filter.mp hitem').2, fun c hc => (List.mem_filter.mp hc).2⟩

/-- A menu of what is allowed is shown as it is. -/
theorem shown_eq_self {allowed : String → Bool} {items : List MenuItem}
    (h : ∀ item ∈ items, allowed item.name = true ∧ ∀ c ∈ item.children, allowed c.name = true) :
    shown allowed items = items := by
  induction items with
  | nil => rfl
  | cons item items ih =>
      obtain ⟨⟨hname, hchildren⟩, hitems⟩ := List.forall_mem_cons.mp h
      rw [shown_cons, if_pos hname, List.filter_eq_self.mpr hchildren, ih hitems]
      cases item
      rfl

/-- So nothing more is left out of a menu that is shown. -/
theorem shown_shown (allowed : String → Bool) (items : List MenuItem) :
    shown allowed (shown allowed items) = shown allowed items :=
  shown_eq_self fun _ => allowed_of_mem_shown

/-- An entry is left out wherever a name is asked about, and stays two levels down, where none
is. -/
example :
    let hidden : MenuItem := .leaf "Audit" "Audit"
    let nested : MenuItem := .mk "Jobs" "Jobs" none [hidden]
    shown (· ≠ "Audit") [hidden, .mk "Browse" "Browse" none [hidden, nested]] =
      [.mk "Browse" "Browse" none [nested]] := by
  rfl

end MenuItem

namespace Derived

variable {σ : Type} {ask : Inquiry → StateT σ Run Bool} {subject : Option Subject}

/-! ## Going through the entries -/

/-- The filter visits each entry in order, and leaves of the menu what is left of them. -/
theorem filterMenu_visits (ask : Inquiry → StateT σ Run Bool) (subject : Option Subject)
    (items : List MenuItem) (s : σ) :
    ∃ visits : List Visit, visits.map Visit.item = items ∧
      ComesTo ask (filterMenu ask subject items) s (visits.flatMap (Visit.talk subject))
        (visits.flatMap Visit.kept) := by
  induction items generalizing s with
  | nil => exact ⟨[], rfl, .pure [] s⟩
  | cons item rest ih =>
      have hone : ComesTo ask (ask (menuInquiry subject item)) s _ _ :=
        .one (menuInquiry subject item) s
      generalize ((ask (menuInquiry subject item)).run s).value.1 = yes at hone
      cases yes with
      | false =>
          obtain ⟨visits, rfl, hvisits⟩ := ih ((ask (menuInquiry subject item)).run s).value.2
          exact ⟨⟨item, false, [], rfl⟩ :: visits, rfl, hone.bind hvisits⟩
      | true =>
          obtain ⟨below, hbelow, hchildren⟩ := keep_ask_comesTo ask (menuInquiry subject)
            item.children ((ask (menuInquiry subject item)).run s).value.2
          obtain ⟨visits, rfl, hvisits⟩ := ih
            ((keep (fun c => ask (menuInquiry subject c)) item.children).run
              ((ask (menuInquiry subject item)).run s).value.2).value.2
          refine ⟨⟨item, true, below, hchildren⟩ :: visits, rfl, ?_⟩
          cases item
          exact hone.bind (hbelow.bind (hvisits.map _))

/-- A backend without a memory is asked by the menu filter as its manager asks. -/
theorem run_filterMenu {check : Inquiry → Run Bool} (h : ∀ i s, (ask i).run s = (·, s) <$> check i)
    (items : List MenuItem) (s : σ) :
    (filterMenu ask subject items).run s = (·, s) <$> filterMenu check subject items := by
  induction items with
  | nil => rfl
  | cons item rest ih =>
      rw [filterMenu, StateT.run_bind, h, filterMenu, bind_map_left, map_bind]
      congr 1
      funext yes
      cases yes with
      | false => exact ih
      | true =>
          have hkeep := run_keep (fun c s => h (menuInquiry subject c) s) item.children s
          simp [hkeep, ih]

/-! ## Settled answers -/

section Settled

variable {settled : Inquiry → Bool}

/-- With settled answers an entry is shown if its name is allowed, with the children whose names
are. -/
theorem kept_of_settled {v : Visit} (ht : ∀ p ∈ v.talk subject, p.2 = settled p.1) :
    v.kept = MenuItem.shown (fun name => settled (menuQuestion subject name)) [v.item] := by
  obtain ⟨hshown, hbelow⟩ := List.forall_mem_cons.mp ht
  have hchildren : (v.below.filter Prod.snd).map Prod.fst =
      (v.below.map Prod.fst).filter fun c => settled (menuQuestion subject c.name) := by
    rw [List.filter_map]
    congr 1
    apply List.filter_congr
    intro c hc
    exact hbelow _ (List.mem_map_of_mem hc)
  rw [Visit.kept, hchildren, v.below_eq, MenuItem.shown_cons, ← hshown]
  cases v.shown <;> rfl

/-- Then it is known beforehand what is asked about it. -/
theorem questions_of_settled {v : Visit} (ht : ∀ p ∈ v.talk subject, p.2 = settled p.1) :
    (v.talk subject).questions =
      menuQuestion subject v.item.name ::
        if settled (menuQuestion subject v.item.name) then
          v.item.children.map fun c => menuQuestion subject c.name
        else [] := by
  have hshown : v.shown = settled (menuQuestion subject v.item.name) := ht _ List.mem_cons_self
  have hbelow : questions (v.below.map fun c => (menuQuestion subject c.1.name, c.2)) =
      (v.below.map Prod.fst).map fun c => menuQuestion subject c.name := by
    simp [questions, Function.comp_def]
  rw [← hshown, Visit.talk, questions, List.map_cons, ← questions, hbelow, v.below_eq]
  cases v.shown <;> rfl

section Visits

variable {visits : List Visit}
  (ht : ∀ p ∈ visits.flatMap (Visit.talk subject), p.2 = settled p.1)
include ht

/-- The visits to the entries of a menu leave what is shown of it. -/
theorem flatMap_kept_of_settled :
    visits.flatMap Visit.kept =
      MenuItem.shown (fun name => settled (menuQuestion subject name)) (visits.map Visit.item) := by
  rw [← MenuItem.flatMap_shown, List.flatMap_map]
  apply List.flatMap_congr
  intro v hv
  exact kept_of_settled fun p hp => ht p (List.mem_flatMap.mpr ⟨v, hv, hp⟩)

/-- What they ask is what is asked about each entry. -/
theorem questions_flatMap_of_settled :
    questions (visits.flatMap (Visit.talk subject)) =
      (visits.map Visit.item).flatMap fun item =>
        menuQuestion subject item.name ::
          if settled (menuQuestion subject item.name) then
            item.children.map fun c => menuQuestion subject c.name
          else [] := by
  rw [questions, List.map_flatMap, List.flatMap_map]
  apply List.flatMap_congr
  intro v hv
  exact questions_of_settled fun p hp => ht p (List.mem_flatMap.mpr ⟨v, hv, hp⟩)

end Visits

/-- A backend whose answers are settled leaves of a menu what is shown of it. -/
theorem value_filterMenu_of_settled (h : ∀ i s, ((ask i).run s).value.1 = settled i)
    (items : List MenuItem) (s : σ) :
    ((filterMenu ask subject items).run s).value.1 =
      MenuItem.shown (fun name => settled (menuQuestion subject name)) items := by
  obtain ⟨visits, rfl, hvisits⟩ := filterMenu_visits ask subject items s
  rw [hvisits.value_run]
  exact flatMap_kept_of_settled (hvisits.eq_settled h)

end Settled

/-! ## The filter -/

/-- **What the menu filter asks and answers**, whatever it is answered. It visits the entries in
order: it asks about each, and about the children of those that are shown, and answers with
the entries that are shown, each with the children that are. Where answers are settled,
what is asked and answered can be said without the visits, and filtering the answer again changes
nothing; and a backend without a memory is asked so through its manager. -/
theorem filterMenu_comesTo (ask : Inquiry → StateT σ Run Bool) (s : σ) (items : List MenuItem)
    (subject : Option Subject) :
    let question : MenuItem → Inquiry := fun item =>
      ⟨.customView (.standard .menu) item.name, subject⟩
    ∃ t answer, ComesTo ask (filterMenu ask subject items) s t answer ∧
      (∃ visits : List Visit, visits.map Visit.item = items ∧
        t = visits.flatMap (Visit.talk subject) ∧ answer = visits.flatMap Visit.kept) ∧
      (∀ settled : Inquiry → Bool, (∀ i s, ((ask i).run s).value.1 = settled i) →
        answer = ((items.filter fun item => settled (question item)).map fun item =>
          .mk item.name item.label item.href
            (item.children.filter fun c => settled (question c))) ∧
        t.questions = (items.flatMap fun item =>
          question item :: if settled (question item) then item.children.map question else []) ∧
        ∀ s', ((filterMenu ask subject answer).run s').value.1 = answer) ∧
      ∀ b : Backend, (∀ i s, (ask i).run s = (·, s) <$> b.check i) →
        (filterMenu ask subject items).run s = (·, s) <$> b.manager.filterMenu items subject := by
  intro question
  obtain ⟨visits, rfl, hvisits⟩ := filterMenu_visits ask subject items s
  refine ⟨_, _, hvisits, ⟨visits, rfl, rfl, rfl⟩, ?_, ?_⟩
  · intro settled hsettled
    have hanswers := hvisits.eq_settled hsettled
    have hkept := flatMap_kept_of_settled hanswers
    refine ⟨hkept, questions_flatMap_of_settled hanswers, ?_⟩
    intro s'
    rw [hkept, value_filterMenu_of_settled hsettled, MenuItem.shown_shown]
  · intro b hb
    exact run_filterMenu hb _ s

end Derived

end AccessGate
