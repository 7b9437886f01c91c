/-
# What a batch asks

A batch asks about its requests in order, about each with the request's own method, details
and subject, and stops at the first denial: the requests behind it are not asked about. This
is so for every kind of record and with every backend, also with one whose answers change
from question to question.

* `Derived.batchQuestion` : the question that a request stands for;
* `Derived.batch_talk`, `Derived.allowed_or_denied` : the talk behind a batch, and how it ends;
* `Derived.questions_eq_of_settled` : what is asked if answers are settled;
* `Derived.batch_comesTo` : what a batch asks and answers.
-/
import AccessGate.Manager
import AccessGate.Proofs.Talk

namespace AccessGate.Derived

open Talk

variable {k : RecordKind} {σ : Type} {ask : Inquiry → StateT σ Run Bool}

/-! ## The talk behind a batch -/

/-- The question whether a request is allowed: about its kind of record, with its method and
details, and on behalf of its subject. -/
def batchQuestion (r : Request k) : Inquiry :=
  ⟨.record k r.method r.details, r.subject⟩

/-- A batch asks whether the questions of its requests are all answered with yes. -/
theorem batch_eq_all {m : Type → Type} [Monad m] (ask : Inquiry → m Bool) (rs : List (Request k)) :
    batch ask rs = all ask (rs.map batchQuestion) :=
  rfl

/-- So what it asks goes up to the first no. -/
theorem batch_talk (ask : Inquiry → StateT σ Run Bool) (rs : List (Request k)) (s : σ) :
    ∃ t, ComesTo ask (batch ask rs) s t t.allYes ∧ UpTo false (rs.map batchQuestion) t := by
  rw [batch_eq_all]
  exact all_comesTo ask _ s

/-- A backend without a memory is asked by a batch as its manager asks. -/
theorem run_batch {check : Inquiry → Run Bool} (h : ∀ i s, (ask i).run s = (·, s) <$> check i)
    (rs : List (Request k)) (s : σ) : (batch ask rs).run s = (·, s) <$> batch check rs := by
  rw [batch_eq_all, batch_eq_all, run_all h]

/-! ## Where the talk ends -/

section UpToFirstNo

variable {rs : List (Request k)} {t : Talk} (h : UpTo false (rs.map batchQuestion) t)
include h

/-- Either all requests are allowed; or one is denied, with which the talk ends, and those in
front of it are allowed. -/
theorem allowed_or_denied :
    t.allYes = true ∧ t = rs.map (fun r => (batchQuestion r, true)) ∨
      t.allYes = false ∧ ∃ before r after, rs = before ++ r :: after ∧
        t = before.map (fun r => (batchQuestion r, true)) ++ [(batchQuestion r, false)] := by
  rcases h.eq_or_exists with rfl | ⟨questions, i, behind, hquestions, rfl⟩
  · exact .inl ⟨by simp [allYes], by simp [Function.comp_def]⟩
  · -- the requests are cut where the questions are
    obtain ⟨before, rest, rfl, rfl, hrest⟩ := List.map_eq_append_iff.mp hquestions
    obtain ⟨r, after, rfl, rfl, rfl⟩ := List.map_eq_cons_iff.mp hrest
    exact .inr ⟨by simp [allYes], before, r, after, rfl, by simp [Function.comp_def]⟩

variable {settled : Inquiry → Bool} (ht : ∀ p ∈ t, p.2 = settled p.1)
include ht

/-- With settled answers every answer is yes if those about all requests are, asked about or
not. -/
theorem allYes_iff_of_settled :
    t.allYes = true ↔ ∀ r ∈ rs, settled (batchQuestion r) = true := by
  rcases allowed_or_denied h with ⟨hyes, rfl⟩ | ⟨hno, before, r, after, rfl, rfl⟩
  · refine iff_of_true hyes ?_
    intro r hr
    exact (ht _ (List.mem_map_of_mem hr)).symm
  · have hr : false = settled (batchQuestion r) := ht (batchQuestion r, false) (by simp)
    refine iff_of_false (by simp [hno]) ?_
    intro hall
    rw [hall r (by simp)] at hr
    cases hr

/-- With settled answers the requests that are asked about are those in front of the first one
to be denied, and this one. -/
theorem questions_eq_of_settled :
    t.questions =
      ((rs.takeWhile fun r => settled (batchQuestion r)) ++
        (rs.find? fun r => !settled (batchQuestion r)).toList).map batchQuestion := by
  rw [h.questions_eq_of_settled ht, List.takeWhile_map, List.find?_map, List.map_append,
    Option.toList_map]
  simp [Function.comp_def]

end UpToFirstNo

/-! ## Batches -/

/-- **What a batch asks and answers**, whatever it is answered and whatever kind of record it
is about. If all requests are allowed it has asked about each of them, in order; otherwise it
has asked about those in front of the first one to be denied and about this one, and about none
behind it. Where answers are settled, what is asked and answered can be said without the
talk; and a backend without a memory is asked so through its manager. -/
theorem batch_comesTo (ask : Inquiry → StateT σ Run Bool) (s : σ) (rs : List (Request k)) :
    let question : Request k → Inquiry := fun r => ⟨.record k r.method r.details, r.subject⟩
    ∃ t answer, ComesTo ask (batch ask rs) s t answer ∧
      (answer = true ∧ t = rs.map (fun r => (question r, true)) ∨
        answer = false ∧ ∃ before r after, rs = before ++ r :: after ∧
          t = before.map (fun r => (question r, true)) ++ [(question r, false)]) ∧
      (∀ settled : Inquiry → Bool, (∀ i s, ((ask i).run s).value.1 = settled i) →
        (answer = true ↔ ∀ r ∈ rs, settled (question r) = true) ∧
        t.questions =
          ((rs.takeWhile fun r => settled (question r)) ++
            (rs.find? fun r => !settled (question r)).toList).map question) ∧
      ∀ b : Backend, (∀ i s, (ask i).run s = (·, s) <$> b.check i) →
        (batch ask rs).run s = (·, s) <$> b.manager.batch rs := by
  intro question
  obtain ⟨t, ht, hupTo⟩ := batch_talk ask rs s
  refine ⟨t, t.allYes, ht, allowed_or_denied hupTo, ?_, ?_⟩
  · intro settled hsettled
    have hanswers := ht.eq_settled hsettled
    exact ⟨allYes_iff_of_settled hupTo hanswers, questions_eq_of_settled hupTo hanswers⟩
  · intro b hb
    exact run_batch hb rs s

/-- A backend that says yes once and no ever after: a batch ends with its second request. -/
example :
    let ask : Inquiry → StateT Nat Run Bool := fun _ asked => return (asked = 0, asked + 1)
    let read : Request .pool := { method := .get }
    ((batch ask [read, read, read]).run 0).value = (false, 2) := by
  rfl

end AccessGate.Derived
