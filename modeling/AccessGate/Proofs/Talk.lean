/-
# What a backend is asked

A derived operation puts questions to a backend, and what it asks next may depend on the
answers it has had. Nothing is supposed here of the backend: it may change with every
question, wait and log, so asking is `Inquiry → StateT σ Run Bool` for any type `σ` of
states. An operation *comes to* a talk if it is nothing but asking the questions of the
talk, in order, and answering in the end.

* `Talk.ComesTo` : an operation is a talk, and then its answer;
* `Talk.UpTo` : a talk that ends with the first answer of one sort;
* `Talk.UpTo.eq_or_exists` : where such a talk ends;
* `Talk.all_comesTo`, `Talk.any_comesTo`, `Talk.keep_comesTo` : the talks behind asking about a
  list;
* `Talk.ComesTo.eq_settled` : what a talk is with a backend whose answers are settled;
* `Derived.run_all`, `Derived.run_any`, `Derived.run_keep` : backends that have no state at all.
-/
import AccessGate.Derived
import AccessGate.Run
import Mathlib.Data.List.Basic

namespace AccessGate

/-- Questions with the answers they were given, in the order of asking. -/
abbrev Talk :=
  List (Inquiry × Bool)

namespace Talk

/-- The questions of a talk. -/
def questions (t : Talk) : List Inquiry :=
  t.map Prod.fst

/-- Whether some answer of a talk is yes. -/
def hasYes (t : Talk) : Bool :=
  t.any Prod.snd

theorem hasYes_iff {t : Talk} : t.hasYes = true ↔ ∃ i, (i, true) ∈ t := by
  simp [hasYes]

/-- A talk of one question has a yes if this is the answer. -/
@[simp]
theorem hasYes_singleton (i : Inquiry) (yes : Bool) : hasYes [(i, yes)] = yes := by
  simp [hasYes]

/-- Whether every answer of a talk is yes. -/
def allYes (t : Talk) : Bool :=
  t.all Prod.snd

variable {σ α β : Type} (ask : Inquiry → StateT σ Run Bool)

/-- Ask some questions in order, whatever the answers are. -/
def askEach : List Inquiry → StateT σ Run Talk
  | [] => return []
  | i :: is => do
      let yes ← ask i
      let rest ← askEach is
      return (i, yes) :: rest

/-- Whether an operation, begun in a state, is nothing but a talk: asking the questions of
the talk gets its answers, and the operation is this asking, with an answer of its own in
the end. -/
structure ComesTo (op : StateT σ Run α) (s : σ) (t : Talk) (a : α) : Prop where
  answered : ((askEach ask t.questions).run s).value.1 = t
  run : op.run s = (fun p => (a, p.2)) <$> (askEach ask t.questions).run s

/-- Asking about two lists is asking about the one and then about the other. -/
theorem askEach_append (xs ys : List Inquiry) :
    askEach ask (xs ++ ys) = do
      let t ← askEach ask xs
      let t' ← askEach ask ys
      return t ++ t' := by
  induction xs with
  | nil => simp [askEach]
  | cons i is ih => simp [askEach, ih]

namespace ComesTo

variable {ask} {op : StateT σ Run α} {s : σ} {t t' : Talk} {a : α}

/-- To answer without asking is no talk. -/
theorem pure (a : α) (s : σ) : ComesTo ask (Pure.pure a) s [] a :=
  ⟨rfl, rfl⟩

/-- To ask is a talk of one question. -/
theorem one (i : Inquiry) (s : σ) :
    ComesTo ask (ask i) s [(i, ((ask i).run s).value.1)] ((ask i).run s).value.1 where
  answered := by simp [questions, askEach]
  run := by
    ext1
    · simp [questions, askEach]
    · simp [questions, askEach]

/-- The state after an operation is the one after its talk. -/
theorem value_run (h : ComesTo ask op s t a) :
    (op.run s).value = (a, ((askEach ask t.questions).run s).value.2) := by
  rw [h.run, Run.value_map]

/-- An operation after an operation is a talk after a talk. -/
theorem bind (h : ComesTo ask op s t a) {f : α → StateT σ Run β} {b : β}
    (hf : ComesTo ask (f a) (op.run s).value.2 t' b) : ComesTo ask (op >>= f) s (t ++ t') b := by
  rw [h.value_run] at hf
  have hall : (askEach ask (questions (t ++ t'))).run s =
      (askEach ask t.questions).run s >>= fun p =>
        (fun q => (p.1 ++ q.1, q.2)) <$> (askEach ask t'.questions).run p.2 := by
    rw [questions, List.map_append, askEach_append]
    simp [questions]
  refine ⟨?_, ?_⟩
  · rw [hall, Run.value_bind, Run.value_map, h.answered, hf.answered]
  · rw [hall, StateT.run_bind, h.run]
    ext1
    · simp [hf.run]
    · simp [hf.run]

/-- What is made of the answer in the end needs no talk. -/
theorem map (h : ComesTo ask op s t a) (f : α → β) :
    ComesTo ask (op >>= fun x => Pure.pure (f x)) s t (f a) := by
  have hbind := h.bind (f := fun x => Pure.pure (f x)) (.pure (f a) _)
  rwa [List.append_nil] at hbind

/-- A backend whose answers are settled gives these in every talk. -/
theorem eq_settled (h : ComesTo ask op s t a) {settled : Inquiry → Bool}
    (hsettled : ∀ i s, ((ask i).run s).value.1 = settled i) : ∀ p ∈ t, p.2 = settled p.1 := by
  have heach : ∀ is s, ((askEach ask is).run s).value.1 = is.map fun i => (i, settled i) := by
    intro is
    induction is with
    | nil => simp [askEach]
    | cons i is ih => simp [askEach, hsettled, ih]
  intro p hp
  rw [← h.answered, heach] at hp
  obtain ⟨i, -, rfl⟩ := List.mem_map.mp hp
  rfl

end ComesTo

/-! ## Asking about lists -/

/-- Whether a talk goes through some questions in order, up to the first one that is
answered with `last`, and through all of them if none is. -/
inductive UpTo (last : Bool) : List Inquiry → Talk → Prop where
  | nil : UpTo last [] []
  | stop (i : Inquiry) (is : List Inquiry) : UpTo last (i :: is) [(i, last)]
  | next (i : Inquiry) {is : List Inquiry} {t : Talk} :
      UpTo last is t → UpTo last (i :: is) ((i, !last) :: t)

namespace UpTo

variable {last : Bool} {is : List Inquiry} {t : Talk}

/-- Nothing else is asked. -/
theorem mem_of_mem (h : UpTo last is t) {p : Inquiry × Bool} (hp : p ∈ t) : p.1 ∈ is := by
  induction h with
  | nil => cases hp
  | stop i is =>
      rw [List.mem_singleton.mp hp]
      exact List.mem_cons_self
  | next i _ ih =>
      rcases List.mem_cons.mp hp with rfl | hp
      · exact List.mem_cons_self
      · exact List.mem_cons_of_mem i (ih hp)

/-- A question that settled answers would end the talk with is not passed over: the talk
ends with it or with an earlier one. -/
theorem exists_last (h : UpTo last is t) {settled : Inquiry → Bool}
    (ht : ∀ p ∈ t, p.2 = settled p.1) {i : Inquiry} (hi : i ∈ is) (hsettled : settled i = last) :
    ∃ j, (j, last) ∈ t := by
  induction h with
  | nil => cases hi
  | stop j is => exact ⟨j, List.mem_singleton.mpr rfl⟩
  | next j _ ih =>
      rcases List.mem_cons.mp hi with rfl | hi
      · -- the first question was answered otherwise, though its answer is settled
        have hj := ht _ List.mem_cons_self
        rw [hsettled] at hj
        cases last <;> cases hj
      · obtain ⟨k, hk⟩ := ih (fun p hp => ht p (List.mem_cons_of_mem _ hp)) hi
        exact ⟨k, List.mem_cons_of_mem _ hk⟩

/-- All questions are answered otherwise; or the talk ends with one of them, and those in front
of it are. -/
theorem eq_or_exists (h : UpTo last is t) :
    t = is.map (·, !last) ∨
      ∃ before i after, is = before ++ i :: after ∧ t = before.map (·, !last) ++ [(i, last)] := by
  induction h with
  | nil => exact .inl rfl
  | stop i is => exact .inr ⟨[], i, is, rfl, rfl⟩
  | next i _ ih =>
      rcases ih with rfl | ⟨before, j, after, rfl, rfl⟩
      · exact .inl rfl
      · exact .inr ⟨i :: before, j, after, rfl, rfl⟩

/-- With settled answers the questions of the talk are known beforehand: those in front of the
first one to be answered with `last`, and this one, if there is one. -/
theorem questions_eq_of_settled (h : UpTo last is t) {settled : Inquiry → Bool}
    (ht : ∀ p ∈ t, p.2 = settled p.1) :
    t.questions =
      is.takeWhile (fun i => settled i != last) ++
        (is.find? fun i => settled i == last).toList := by
  induction h with
  | nil => rfl
  | stop i is =>
      have hi : last = settled i := ht _ List.mem_cons_self
      simp [questions, ← hi]
  | next i _ ih =>
      have hi : (!last) = settled i := ht _ List.mem_cons_self
      have hrest := ih fun p hp => ht p (List.mem_cons_of_mem _ hp)
      rw [questions] at hrest
      simp [questions, ← hi, hrest]

end UpTo

/-- Asking whether every answer is yes goes up to the first no. -/
theorem all_comesTo (is : List Inquiry) (s : σ) :
    ∃ t, ComesTo ask (Derived.all ask is) s t t.allYes ∧ UpTo false is t := by
  induction is generalizing s with
  | nil => exact ⟨[], .pure true s, .nil⟩
  | cons i is ih =>
      have hone : ComesTo ask (ask i) s _ _ := .one i s
      generalize ((ask i).run s).value.1 = yes at hone
      cases yes with
      | true =>
          obtain ⟨t, ht, hupTo⟩ := ih ((ask i).run s).value.2
          exact ⟨_, hone.bind ht, hupTo.next i⟩
      | false => exact ⟨_, hone.bind (.pure false _), .stop i is⟩

/-- Asking whether some answer is yes goes up to the first yes. -/
theorem any_comesTo (is : List Inquiry) (s : σ) :
    ∃ t, ComesTo ask (Derived.any ask is) s t t.hasYes ∧ UpTo true is t := by
  induction is generalizing s with
  | nil => exact ⟨[], .pure false s, .nil⟩
  | cons i is ih =>
      have hone : ComesTo ask (ask i) s _ _ := .one i s
      generalize ((ask i).run s).value.1 = yes at hone
      cases yes with
      | true => exact ⟨_, hone.bind (.pure true _), .stop i is⟩
      | false =>
          obtain ⟨t, ht, hupTo⟩ := ih ((ask i).run s).value.2
          exact ⟨_, hone.bind ht, hupTo.next i⟩

/-- Keeping the items that a test says yes to goes through the items in order, each with a
talk of its own, and keeps those whose talk has a yes. -/
theorem keep_comesTo {test : α → StateT σ Run Bool} {spec : α → Talk → Prop}
    (htest : ∀ a s, ∃ t, ComesTo ask (test a) s t t.hasYes ∧ spec a t) (as : List α) (s : σ) :
    ∃ parts : List (α × Talk),
      ComesTo ask (Derived.keep test as) s (parts.flatMap Prod.snd)
        ((parts.filter fun p => p.2.hasYes).map Prod.fst) ∧
      parts.map Prod.fst = as ∧ ∀ p ∈ parts, spec p.1 p.2 := by
  induction as generalizing s with
  | nil => exact ⟨[], .pure [] s, rfl, by simp⟩
  | cons a as ih =>
      obtain ⟨t, ht, hspec⟩ := htest a s
      obtain ⟨parts, hparts, hfst, hspecs⟩ := ih ((test a).run s).value.2
      refine ⟨(a, t) :: parts, ?_, ?_, ?_⟩
      · have hkept : ((((a, t) :: parts).filter fun p => p.2.hasYes).map Prod.fst) =
            if t.hasYes then a :: (parts.filter fun p => p.2.hasYes).map Prod.fst
            else (parts.filter fun p => p.2.hasYes).map Prod.fst := by
          cases hyes : t.hasYes <;> simp [hyes]
        rw [hkept, List.flatMap_cons]
        exact ht.bind (hparts.map fun kept => if t.hasYes then a :: kept else kept)
      · rw [List.map_cons, hfst]
      · intro p hp
        rcases List.mem_cons.mp hp with rfl | hp
        · exact hspec
        · exact hspecs p hp

/-- If the test is to ask one question, each item in order has one answer, and those are kept
for which it is yes. -/
theorem keep_ask_comesTo (question : α → Inquiry) (as : List α) (s : σ) :
    ∃ answers : List (α × Bool),
      ComesTo ask (Derived.keep (fun a => ask (question a)) as) s
        (answers.map fun p => (question p.1, p.2)) ((answers.filter Prod.snd).map Prod.fst) ∧
      answers.map Prod.fst = as := by
  have htest : ∀ a s, ∃ t, ComesTo ask (ask (question a)) s t t.hasYes ∧
      t = [(question a, t.hasYes)] := by
    intro a s
    refine ⟨[(question a, ((ask (question a)).run s).value.1)], ?_, ?_⟩
    · rw [hasYes_singleton]
      exact .one (question a) s
    · rw [hasYes_singleton]
  obtain ⟨parts, hparts, rfl, hspec⟩ := keep_comesTo ask htest as s
  refine ⟨parts.map fun p => (p.1, p.2.hasYes), ?_, by simp⟩
  have htalk : parts.flatMap Prod.snd = parts.map fun p => (question p.1, p.2.hasYes) := by
    rw [List.map_eq_flatMap]
    exact List.flatMap_congr hspec
  rw [htalk] at hparts
  simpa [List.filter_map, Function.comp_def] using hparts

end Talk

/-! ## Backends without a memory -/

namespace Derived

variable {σ : Type} {ask : Inquiry → StateT σ Run Bool} {check : Inquiry → Run Bool}

/-- Asking about a list leaves the state alone if asking does. -/
theorem run_all (h : ∀ i s, (ask i).run s = (·, s) <$> check i) (is : List Inquiry) (s : σ) :
    (all ask is).run s = (·, s) <$> all check is := by
  induction is with
  | nil => rfl
  | cons i is ih =>
      rw [all, StateT.run_bind, h, all, bind_map_left, map_bind]
      congr 1
      funext yes
      cases yes with
      | true => exact ih
      | false => rfl

/-- So does asking up to the first yes. -/
theorem run_any (h : ∀ i s, (ask i).run s = (·, s) <$> check i) (is : List Inquiry) (s : σ) :
    (any ask is).run s = (·, s) <$> any check is := by
  induction is with
  | nil => rfl
  | cons i is ih =>
      rw [any, StateT.run_bind, h, any, bind_map_left, map_bind]
      congr 1
      funext yes
      cases yes with
      | true => rfl
      | false => exact ih

/-- So does keeping items if the test does. -/
theorem run_keep {α : Type} {test : α → StateT σ Run Bool} {test' : α → Run Bool}
    (h : ∀ a s, (test a).run s = (·, s) <$> test' a) (as : List α) (s : σ) :
    (keep test as).run s = (·, s) <$> keep test' as := by
  induction as with
  | nil => rfl
  | cons a as ih => simp [keep, h, ih]

end Derived

end AccessGate
