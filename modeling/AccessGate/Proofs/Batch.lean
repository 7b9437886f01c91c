/-
# Batches of the static backend

The static backend does not put the questions of a batch to itself one after another: it
looks for the first one that its table denies. This is what asking them would come to.
What is allowed is answered at once and is not logged, so that nothing is to be seen of the
questions in front of the first denial, and nothing is asked behind it.

* `GrantTable.all_check` : asking in order is looking for the first denial;
* `GrantTable.batch_eq` : the batch of the static backend is the derived one, with its log;
* `GrantTable.batch_eq_derived` : so it is the conjunction of the single answers, in any
  order and however often each is asked for.
-/
import AccessGate.Manager.Static
import AccessGate.Proofs.Derived

namespace AccessGate.GrantTable

variable (t : GrantTable)

/-- An inquiry that is allowed is answered without a word. -/
theorem check_of_permits {i : Inquiry} (h : t.permits i = true) :
    t.backend.check i = pure true := by
  show (do Run.log (t.denials i); return t.permits i) = (pure true : Run Bool)
  rw [denials_eq_nil h, h]
  rfl

/-- An inquiry that is denied is logged. -/
theorem check_of_not_permits {i : Inquiry} (h : t.permits i = false) :
    t.backend.check i = do
      Run.log (t.denials i)
      return false := by
  rw [← h]
  rfl

/-- Tables answer an inquiry alike, and log the same about it, if both or neither allow it and
the caller is an impostor to both or to neither. -/
theorem check_eq_check {t t' : GrantTable} {i : Inquiry} (hpermits : t.permits i = t'.permits i)
    (himpostor : ∀ c, i.subject = some c → t.isImpostor c = t'.isImpostor c) :
    t.backend.check i = t'.backend.check i := by
  have hdenials : t.denials i = t'.denials i := by
    rw [denials, denials, hpermits]
    cases hcaller : i.subject with
    | none => rfl
    | some c => simp only [himpostor c hcaller]
  show (do Run.log (t.denials i); return t.permits i) = (_ : Run Bool)
  rw [hdenials, hpermits]
  rfl

/-- Asking in order up to the first no is looking for the first inquiry that is denied. -/
theorem all_check (is : List Inquiry) :
    Derived.all t.backend.check is =
      match is.find? fun i => !t.permits i with
      | some i => do
          Run.log (t.denials i)
          return false
      | none => return true := by
  induction is with
  | nil => rfl
  | cons i is ih =>
      rw [Derived.all, List.find?_cons]
      cases h : t.permits i with
      | true =>
          -- the answer leaves no trace, so what is found is found among the others
          rw [check_of_permits t h, pure_bind]
          exact ih
      | false =>
          rw [check_of_not_permits t h, bind_assoc]
          simp only [pure_bind]
          rfl

variable {k : RecordKind} (rs : List (Request k))

/-- **The batch of the static backend is the derived one**, answer and log. -/
theorem batch_eq : t.batch rs = Derived.batch t.backend.check rs :=
  (all_check t (rs.map Request.inquiry)).symm

/-- A batch is allowed if all its requests are. -/
theorem value_batch : (t.batch rs).value = rs.all fun r => t.permits r.inquiry := by
  rw [batch_eq, Derived.batch, Derived.value_all, List.all_map]
  rfl

/-- **Overriding the batch changes nothing.** It is what asking for the requests one by one
comes to, and its answer is the conjunction of theirs; so it is the same for all batches
of the same requests, in whatever order they are listed and however often. -/
theorem batch_eq_derived :
    t.manager.batch rs = Derived.batch t.manager.check rs ∧
      (t.manager.batch rs).value = (rs.all fun r => (t.manager.check r.inquiry).value) ∧
      ∀ rs' : List (Request k), (∀ r, r ∈ rs' ↔ r ∈ rs) →
        (t.manager.batch rs').value = (t.manager.batch rs).value := by
  refine ⟨batch_eq t rs, value_batch t rs, ?_⟩
  intro rs' hsame
  show (t.batch rs').value = (t.batch rs).value
  rw [value_batch, value_batch, Bool.eq_iff_iff, List.all_eq_true, List.all_eq_true]
  simp only [hsame]

end AccessGate.GrantTable
