/-
# What the DAG filter asks

The DAG filter first asks whether all DAGs are allowed, and asks about each id only if they
are not. It asks about `GET` and then about `PUT`, as far as they are wanted, and about the
second only if the answer about the first is no. This is so with every backend, also with
one whose answers change from question to question.

* `Derived.Wants`, `Derived.dagQuestions` : the methods that count, and the questions;
* `Derived.FilterTalk` : the talks that the filter may have, with its answers;
* `Derived.filterDags_comesTo` : what the filter asks and answers.
-/
import AccessGate.Manager
import AccessGate.Proofs.Derived
import AccessGate.Proofs.Talk

namespace AccessGate.Derived

open Talk

/-! ## Questions about DAGs -/

/-- Whether a method counts: `GET` and `PUT` do if they are listed, or if nothing is. -/
def Wants (methods : List Method) (w : Method) : Prop :=
  (w = .get ∨ w = .put) ∧ (methods = [] ∨ w ∈ methods)

instance (methods : List Method) (w : Method) : Decidable (Wants methods w) :=
  inferInstanceAs (Decidable (_ ∧ _))

/-- The question whether a method is allowed on the DAGs that the details name. -/
def dagQuestion (subject : Option Subject) (details : Option (Details .dag)) (w : Method) :
    Inquiry :=
  ⟨.record .dag w details, subject⟩

/-- The questions about the methods that count, `GET` before `PUT`. -/
def dagQuestions (methods : List Method) (subject : Option Subject)
    (details : Option (Details .dag)) : List Inquiry :=
  (if Wants methods .get then [dagQuestion subject details .get] else []) ++
    if Wants methods .put then [dagQuestion subject details .put] else []

variable {methods : List Method} {subject : Option Subject}
  {details details' : Option (Details .dag)}

/-- These are the questions that the filter asks. -/
theorem dagInquiries_eq (methods : List Method) (subject : Option Subject)
    (details : Option (Details .dag)) :
    dagInquiries methods details subject = dagQuestions methods subject details := by
  rw [dagInquiries, wanted, dagQuestions]
  by_cases hempty : methods = []
  · rw [hempty]
    rfl
  · by_cases hget : .get ∈ methods <;> by_cases hput : .put ∈ methods <;>
      simp [Wants, dagQuestion, hempty, hget, hput]

/-- There is one for each method that counts. -/
theorem mem_dagQuestions {i : Inquiry} :
    i ∈ dagQuestions methods subject details ↔
      ∃ w, Wants methods w ∧ i = dagQuestion subject details w := by
  rw [← dagInquiries_eq, dagInquiries, List.mem_map]
  simp only [mem_wanted, dagQuestion, Wants, eq_comm]

/-- A question about some details is about no others. -/
theorem dagQuestion_inj {w w' : Method}
    (h : dagQuestion subject details w = dagQuestion subject details' w') :
    details = details' := by
  cases h
  rfl

/-! ## Talking about one thing -/

section OneThing

variable {t : Talk}

/-- Asking the questions about some details goes up to the first yes. -/
theorem dags_comesTo {σ : Type} (ask : Inquiry → StateT σ Run Bool) (methods : List Method)
    (subject : Option Subject) (details : Option (Details .dag)) (s : σ) :
    ∃ t, ComesTo ask (any ask (dagInquiries methods details subject)) s t t.hasYes ∧
      UpTo true (dagQuestions methods subject details) t := by
  rw [← dagInquiries_eq]
  exact any_comesTo ask _ s

/-- Such a talk is about no other details. -/
theorem details_eq_of_upTo (h : UpTo true (dagQuestions methods subject details) t) {w : Method}
    {yes : Bool} (hmem : (dagQuestion subject details' w, yes) ∈ t) : details' = details := by
  obtain ⟨w', -, hi⟩ := mem_dagQuestions.mp (h.mem_of_mem hmem)
  exact dagQuestion_inj hi

/-- It has a yes if the answer about a method that counts is yes. -/
theorem hasYes_iff_of_upTo (h : UpTo true (dagQuestions methods subject details) t) :
    t.hasYes = true ↔ ∃ w, Wants methods w ∧ (dagQuestion subject details w, true) ∈ t := by
  rw [hasYes_iff]
  constructor
  · rintro ⟨i, hi⟩
    obtain ⟨w, hw, rfl⟩ := mem_dagQuestions.mp (h.mem_of_mem hi)
    exact ⟨w, hw, hi⟩
  · rintro ⟨w, -, hi⟩
    exact ⟨_, hi⟩

/-- With settled answers it has a yes if one of the questions has, whether it is asked or
not. -/
theorem hasYes_iff_of_settled {settled : Inquiry → Bool}
    (h : UpTo true (dagQuestions methods subject details) t) (ht : ∀ p ∈ t, p.2 = settled p.1) :
    t.hasYes = true ↔ ∃ w, Wants methods w ∧ settled (dagQuestion subject details w) = true := by
  constructor
  · intro hyes
    obtain ⟨w, hw, hmem⟩ := (hasYes_iff_of_upTo h).mp hyes
    exact ⟨w, hw, (ht _ hmem).symm⟩
  · rintro ⟨w, hw, hsettled⟩
    exact hasYes_iff.mpr (h.exists_last ht (mem_dagQuestions.mpr ⟨w, hw, rfl⟩) hsettled)

end OneThing

/-! ## The talk behind the filter -/

/-- What the filter may have talked about, and what it then answers. -/
inductive FilterTalk (ids : DagIds) (methods : List Method) (subject : Option Subject) :
    Talk → DagIds → Prop where
  /-- All DAGs are allowed. -/
  | blanket {t : Talk} :
      t.hasYes = true → UpTo true (dagQuestions methods subject none) t →
        FilterTalk ids methods subject t ids
  /-- They are not, and each id has a part of the talk. -/
  | each {first : Talk} {parts : List (String × Talk)} :
      first.hasYes = false → UpTo true (dagQuestions methods subject none) first →
        parts.map Prod.fst = ids.toList →
        (∀ p ∈ parts, UpTo true (dagQuestions methods subject (some (.ofId p.1))) p.2) →
        FilterTalk ids methods subject (first ++ parts.flatMap Prod.snd)
          (.ofList ((parts.filter fun p => p.2.hasYes).map Prod.fst))

/-- An id is kept if its part of the talk has a yes. -/
theorem mem_kept {parts : List (String × Talk)} {id : String} :
    id ∈ (DagIds.ofList ((parts.filter fun p => p.2.hasYes).map Prod.fst)).toList ↔
      ∃ p ∈ parts, p.1 = id ∧ p.2.hasYes = true := by
  rw [DagIds.mem_ofList, List.mem_map]
  constructor
  · rintro ⟨p, hp, hid⟩
    obtain ⟨hp, hyes⟩ := List.mem_filter.mp hp
    exact ⟨p, hp, hid, hyes⟩
  · rintro ⟨p, hp, hid, hyes⟩
    exact ⟨p, List.mem_filter.mpr ⟨hp, hyes⟩, hid⟩

/-- The filter has such a talk. -/
theorem filterDags_talk {σ : Type} (ask : Inquiry → StateT σ Run Bool) (ids : DagIds)
    (methods : List Method) (subject : Option Subject) (s : σ) :
    ∃ t answer, ComesTo ask (filterDags ask ids methods subject) s t answer ∧
      FilterTalk ids methods subject t answer := by
  obtain ⟨first, hfirst, hupTo⟩ := dags_comesTo ask methods subject none s
  cases hyes : first.hasYes with
  | true =>
      rw [hyes] at hfirst
      refine ⟨first ++ [], ids, hfirst.bind (.pure ids _), ?_⟩
      rw [List.append_nil]
      exact .blanket hyes hupTo
  | false =>
      rw [hyes] at hfirst
      obtain ⟨parts, hparts, hids, hspec⟩ := keep_comesTo ask
        (fun id s => dags_comesTo ask methods subject (some (.ofId id)) s) ids.toList
        ((any ask (dagInquiries methods none subject)).run s).value.2
      exact ⟨_, _, hfirst.bind (hparts.map DagIds.ofList), .each hyes hupTo hids hspec⟩

namespace FilterTalk

variable {ids answer : DagIds} {t : Talk}

/-- After a yes about all DAGs nothing more is asked. -/
theorem of_yes (h : FilterTalk ids methods subject t answer)
    (hyes : ∃ w, Wants methods w ∧ (dagQuestion subject none w, true) ∈ t) :
    answer = ids ∧ UpTo true (dagQuestions methods subject none) t := by
  cases h with
  | blanket hblanket hupTo => exact ⟨rfl, hupTo⟩
  | @each first parts hfirst hupTo hids hparts =>
      obtain ⟨w, hw, hmem⟩ := hyes
      rcases List.mem_append.mp hmem with hmem | hmem
      · rw [(hasYes_iff_of_upTo hupTo).mpr ⟨w, hw, hmem⟩] at hfirst
        cases hfirst
      · -- what is said about an id is not said about all DAGs
        obtain ⟨p, hp, hmem⟩ := List.mem_flatMap.mp hmem
        cases details_eq_of_upTo (hparts p hp) hmem

/-- Without one the ids are gone through. -/
theorem of_no (h : FilterTalk ids methods subject t answer)
    (hno : ¬∃ w, Wants methods w ∧ (dagQuestion subject none w, true) ∈ t) :
    (∀ id, id ∈ answer.toList ↔ id ∈ ids.toList ∧
        ∃ w, Wants methods w ∧ (dagQuestion subject (some (.ofId id)) w, true) ∈ t) ∧
      ∃ (first : Talk) (parts : List (String × Talk)),
        t = first ++ parts.flatMap Prod.snd ∧
        UpTo true (dagQuestions methods subject none) first ∧
        parts.map Prod.fst = ids.toList ∧
        ∀ p ∈ parts, UpTo true (dagQuestions methods subject (some (.ofId p.1))) p.2 := by
  cases h with
  | blanket hblanket hupTo => exact absurd ((hasYes_iff_of_upTo hupTo).mp hblanket) hno
  | @each first parts hfirst hupTo hids hparts =>
      refine ⟨?_, first, parts, rfl, hupTo, hids, hparts⟩
      intro id
      rw [mem_kept]
      constructor
      · rintro ⟨p, hp, rfl, hyes⟩
        obtain ⟨w, hw, hmem⟩ := (hasYes_iff_of_upTo (hparts p hp)).mp hyes
        refine ⟨hids ▸ List.mem_map_of_mem hp, w, hw, ?_⟩
        exact List.mem_append_right first (List.mem_flatMap.mpr ⟨p, hp, hmem⟩)
      · rintro ⟨-, w, hw, hmem⟩
        rcases List.mem_append.mp hmem with hmem | hmem
        · cases details_eq_of_upTo hupTo hmem
        · obtain ⟨p, hp, hmem⟩ := List.mem_flatMap.mp hmem
          -- what is said about the id is said in its own part
          have hid : id = p.1 := by
            cases details_eq_of_upTo (hparts p hp) hmem
            rfl
          rw [hid] at hmem
          exact ⟨p, hp, hid.symm, (hasYes_iff_of_upTo (hparts p hp)).mpr ⟨w, hw, hmem⟩⟩

/-- With settled answers the filter answers as if it had asked all its questions. -/
theorem of_settled (h : FilterTalk ids methods subject t answer) {settled : Inquiry → Bool}
    (ht : ∀ p ∈ t, p.2 = settled p.1) :
    ((∃ w, Wants methods w ∧ settled (dagQuestion subject none w) = true) → answer = ids) ∧
      ((¬∃ w, Wants methods w ∧ settled (dagQuestion subject none w) = true) →
        ∀ id, id ∈ answer.toList ↔ id ∈ ids.toList ∧
          ∃ w, Wants methods w ∧ settled (dagQuestion subject (some (.ofId id)) w) = true) := by
  cases h with
  | blanket hblanket hupTo =>
      have hyes := (hasYes_iff_of_settled hupTo ht).mp hblanket
      exact ⟨fun _ => rfl, fun hno => absurd hyes hno⟩
  | @each first parts hfirst hupTo hids hparts =>
      have hall := hasYes_iff_of_settled hupTo fun p hp => ht p (List.mem_append_left _ hp)
      have hone : ∀ p ∈ parts, (p.2.hasYes = true ↔
          ∃ w, Wants methods w ∧ settled (dagQuestion subject (some (.ofId p.1)) w) = true) := by
        intro p hp
        refine hasYes_iff_of_settled (hparts p hp) ?_
        intro q hq
        exact ht q (List.mem_append_right _ (List.mem_flatMap.mpr ⟨p, hp, hq⟩))
      refine ⟨?_, ?_⟩
      · intro hyes
        rw [hall.mpr hyes] at hfirst
        cases hfirst
      · intro _ id
        rw [mem_kept, ← hids, List.mem_map]
        constructor
        · rintro ⟨p, hp, rfl, hyes⟩
          exact ⟨⟨p, hp, rfl⟩, (hone p hp).mp hyes⟩
        · rintro ⟨⟨p, hp, rfl⟩, hyes⟩
          exact ⟨p, hp, rfl, (hone p hp).mpr hyes⟩

end FilterTalk

/-! ## The filter -/

/-- A backend without a memory is filtered by as its manager filters. -/
theorem run_filterDags {σ : Type} {ask : Inquiry → StateT σ Run Bool} {check : Inquiry → Run Bool}
    (h : ∀ i s, (ask i).run s = (·, s) <$> check i) (ids : DagIds) (methods : List Method)
    (subject : Option Subject) (s : σ) :
    (filterDags ask ids methods subject).run s =
      (·, s) <$> filterDags check ids methods subject := by
  rw [filterDags, StateT.run_bind, run_any h, filterDags, bind_map_left, map_bind]
  congr 1
  funext yes
  cases yes with
  | true => rfl
  | false =>
      have hkeep := run_keep
        (fun id s => run_any h (dagInquiries methods (some (.ofId id)) subject) s) ids.toList s
      simp [hkeep]

/-- **What the DAG filter asks and answers**, whatever it is answered. It first asks about
all DAGs, up to the first yes. After a yes it asks nothing more and gives the ids back;
otherwise it asks about each id in ascending order, for each up to the first yes, and keeps
those with a yes. Where answers are settled, what is answered can be said without the
talk; and a backend without a memory answers so through its manager. -/
theorem filterDags_comesTo {σ : Type} (ask : Inquiry → StateT σ Run Bool) (s : σ) (ids : DagIds)
    (methods : List Method) (subject : Option Subject) :
    ∃ t answer, ComesTo ask (filterDags ask ids methods subject) s t answer ∧
      ((∃ w, Wants methods w ∧ (dagQuestion subject none w, true) ∈ t) →
        answer = ids ∧ UpTo true (dagQuestions methods subject none) t) ∧
      ((¬∃ w, Wants methods w ∧ (dagQuestion subject none w, true) ∈ t) →
        (∀ id, id ∈ answer.toList ↔ id ∈ ids.toList ∧
          ∃ w, Wants methods w ∧ (dagQuestion subject (some (.ofId id)) w, true) ∈ t) ∧
        ∃ (first : Talk) (parts : List (String × Talk)),
          t = first ++ parts.flatMap Prod.snd ∧
          UpTo true (dagQuestions methods subject none) first ∧
          parts.map Prod.fst = ids.toList ∧
          ∀ p ∈ parts, UpTo true (dagQuestions methods subject (some (.ofId p.1))) p.2) ∧
      (∀ settled : Inquiry → Bool, (∀ i s, ((ask i).run s).value.1 = settled i) →
        ((∃ w, Wants methods w ∧ settled (dagQuestion subject none w) = true) → answer = ids) ∧
        ((¬∃ w, Wants methods w ∧ settled (dagQuestion subject none w) = true) →
          ∀ id, id ∈ answer.toList ↔ id ∈ ids.toList ∧
            ∃ w, Wants methods w ∧ settled (dagQuestion subject (some (.ofId id)) w) = true)) ∧
      ∀ b : Backend, (∀ i s, (ask i).run s = (·, s) <$> b.check i) →
        (filterDags ask ids methods subject).run s =
          (·, s) <$> b.manager.filterDags ids methods subject := by
  obtain ⟨t, answer, ht, htalk⟩ := filterDags_talk ask ids methods subject s
  refine ⟨t, answer, ht, htalk.of_yes, htalk.of_no, ?_, ?_⟩
  · intro settled hsettled
    exact htalk.of_settled (ht.eq_settled hsettled)
  · intro b hb
    exact run_filterDags hb ids methods subject s

/-- A backend that says yes to its second question only: the first was about `GET`, so what
it says about `PUT` allows all ids, and it is not asked again. -/
example :
    let ask : Inquiry → StateT (List Inquiry) Run Bool := fun i => do
      let before ← get
      set (before ++ [i])
      return before.length = 1
    let ids : DagIds := .ofList ["etl", "audit"]
    ((filterDags ask ids [] none).run []).value =
      (ids, [dagQuestion none none .get, dagQuestion none none .put]) := by
  rfl

end AccessGate.Derived
