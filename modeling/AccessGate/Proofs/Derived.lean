/-
# Answers of derived operations

The derived operations ask one question after another and stop as soon as the answer is
known. Here is what they answer in the end, said without the order of asking: a batch
is the conjunction of its answers, a filter keeps what is answered with yes.

* `Derived.value_all`, `Derived.value_any`, `Derived.value_keep` : the three ways of
  asking about a list;
* `Derived.mem_wanted` : which methods the DAG filter asks about;
* `Derived.mem_filterDags`, `Derived.value_filterMenu` : what the filters keep;
* `Derived.value_permittedDags`, `Derived.elapsed_permittedDags` : what a listing answers, and
  when;
* `Derived.filterDags_congr`, `Derived.filterMenu_congr` : they ask on behalf of one subject;
* `Derived.elapsed_filterDags`, `Derived.elapsed_filterMenu` : where questions are answered
  at once, so are the derived operations.
-/
import AccessGate.Derived
import AccessGate.Run

namespace AccessGate.Derived

/-! ## On whose behalf is asked -/

section Congr

variable {m : Type → Type} [Monad m] {ask ask' : Inquiry → m Bool} {subject : Option Subject}

theorem all_congr {is : List Inquiry} (h : ∀ i ∈ is, ask i = ask' i) :
    all ask is = all ask' is := by
  induction is with
  | nil => rfl
  | cons i is ih =>
      rw [all, all, h i List.mem_cons_self, ih fun j hj => h j (List.mem_cons_of_mem i hj)]

theorem any_congr {is : List Inquiry} (h : ∀ i ∈ is, ask i = ask' i) :
    any ask is = any ask' is := by
  induction is with
  | nil => rfl
  | cons i is ih =>
      rw [any, any, h i List.mem_cons_self, ih fun j hj => h j (List.mem_cons_of_mem i hj)]

/-- The DAG filter asks on behalf of its subject, and of nobody else. -/
theorem filterDags_congr (h : ∀ q, ask ⟨q, subject⟩ = ask' ⟨q, subject⟩) (ids : DagIds)
    (methods : List Method) :
    filterDags ask ids methods subject = filterDags ask' ids methods subject := by
  have hany : ∀ details, any ask (dagInquiries methods details subject) =
      any ask' (dagInquiries methods details subject) := by
    intro details
    apply any_congr
    intro i hi
    obtain ⟨w, -, rfl⟩ := List.mem_map.mp hi
    exact h _
  simp only [filterDags, hany]

/-- So does the menu filter. -/
theorem filterMenu_congr (h : ∀ q, ask ⟨q, subject⟩ = ask' ⟨q, subject⟩) (items : List MenuItem) :
    filterMenu ask subject items = filterMenu ask' subject items := by
  have hitem : ∀ item, ask (menuInquiry subject item) = ask' (menuInquiry subject item) :=
    fun item => h _
  induction items with
  | nil => rfl
  | cons item rest ih => simp only [filterMenu, hitem, ih]

end Congr

variable (ask : Inquiry → Run Bool)

/-! ## Asking about lists -/

/-- Asking up to the first no answers whether every answer is yes. -/
@[simp]
theorem value_all (is : List Inquiry) :
    (all ask is).value = is.all fun i => (ask i).value := by
  induction is with
  | nil => rfl
  | cons i is ih =>
      rw [all, Run.value_bind, List.all_cons]
      cases (ask i).value with
      | true => simpa using ih
      | false => rfl

/-- Asking up to the first yes answers whether some answer is yes. -/
@[simp]
theorem value_any (is : List Inquiry) :
    (any ask is).value = is.any fun i => (ask i).value := by
  induction is with
  | nil => rfl
  | cons i is ih =>
      rw [any, Run.value_bind, List.any_cons]
      cases (ask i).value with
      | true => rfl
      | false => simpa using ih

/-- What is kept is what the test says yes to. -/
@[simp]
theorem value_keep {α : Type} (test : α → Run Bool) (as : List α) :
    (keep test as).value = as.filter fun a => (test a).value := by
  induction as with
  | nil => rfl
  | cons a as ih =>
      rw [keep, Run.value_bind, Run.value_bind, ih, List.filter_cons]
      rfl

/-! ## DAG ids -/

/-- The DAG filter asks about `GET` and `PUT`, each if it is listed or nothing is. -/
theorem mem_wanted {methods : List Method} {w : Method} :
    w ∈ wanted methods ↔ (w = .get ∨ w = .put) ∧ (methods = [] ∨ w ∈ methods) := by
  by_cases hempty : methods = []
  · cases w <;> simp [wanted, hempty, dagFilterMethods]
  · simp [wanted, hempty]

/-- One of the questions about DAGs is answered with yes if one of the wanted methods
is. -/
theorem any_dagInquiries (methods : List Method) (details : Option (Details .dag))
    (subject : Option Subject) :
    (any ask (dagInquiries methods details subject)).value = true ↔
      ∃ w ∈ wanted methods, (ask ⟨.record .dag w details, subject⟩).value = true := by
  simp [dagInquiries]

/-- The DAG filter keeps an id that it is given if all ids are allowed, or this one. -/
theorem mem_filterDags (ids : DagIds) (methods : List Method) (subject : Option Subject)
    (id : String) :
    id ∈ (filterDags ask ids methods subject).value.toList ↔
      id ∈ ids.toList ∧
        ((∃ w ∈ wanted methods, (ask ⟨.record .dag w none, subject⟩).value = true) ∨
          ∃ w ∈ wanted methods,
            (ask ⟨.record .dag w (some (.ofId id)), subject⟩).value = true) := by
  rw [filterDags, Run.value_bind, ← any_dagInquiries, ← any_dagInquiries]
  cases (any ask (dagInquiries methods none subject)).value with
  | true => simp
  | false => simp [DagIds.mem_ofList, List.mem_filter]

section Listing

variable (filter : DagIds → List Method → Option Subject → Run DagIds)
  (source : Run (Except Fault DagIds)) (methods : List Method) (subject : Option Subject)

/-- What is listed is what the filter leaves of the source's ids; a fault stays a fault. -/
theorem value_permittedDags :
    (permittedDags filter source methods subject).value =
      source.value.map fun ids => (filter ids methods subject).value := by
  rw [permittedDags, Run.value_bind]
  cases source.value <;> rfl

/-- A listing takes the time of its source, and that of the filter if there is something to
filter. -/
theorem elapsed_permittedDags :
    (permittedDags filter source methods subject).elapsed =
      source.elapsed +
        match source.value with
        | .ok ids => (filter ids methods subject).elapsed
        | .error _ => 0 := by
  rw [permittedDags, Run.elapsed_bind]
  cases source.value with
  | error fault => rfl
  | ok ids => simp

end Listing

/-! ## Menus -/

/-- The menu filter keeps an entry if its question is answered with yes, and of its children
those whose questions are. -/
theorem value_filterMenu (subject : Option Subject) (items : List MenuItem) :
    (filterMenu ask subject items).value =
      (items.filter fun item => (ask (menuInquiry subject item)).value).map fun item =>
        item.withChildren (item.children.filter fun c => (ask (menuInquiry subject c)).value) := by
  induction items with
  | nil => rfl
  | cons item rest ih =>
      rw [filterMenu, Run.value_bind, List.filter_cons]
      cases (ask (menuInquiry subject item)).value with
      | true => simp [ih]
      | false => simpa using ih

/-! ## Answers at once -/

section AtOnce

variable {ask} (h : ∀ i, (ask i).elapsed = 0)
include h

theorem elapsed_any (is : List Inquiry) : (any ask is).elapsed = 0 := by
  induction is with
  | nil => rfl
  | cons i is ih =>
      rw [any, Run.elapsed_bind, h]
      cases (ask i).value with
      | true => rfl
      | false => simpa using ih

omit h in
theorem elapsed_keep {α : Type} {test : α → Run Bool} (htest : ∀ a, (test a).elapsed = 0)
    (as : List α) : (keep test as).elapsed = 0 := by
  induction as with
  | nil => rfl
  | cons a as ih => simp [keep, htest, ih]

/-- The DAG filter takes no time. -/
theorem elapsed_filterDags (ids : DagIds) (methods : List Method) (subject : Option Subject) :
    (filterDags ask ids methods subject).elapsed = 0 := by
  rw [filterDags, Run.elapsed_bind, elapsed_any h]
  cases (any ask (dagInquiries methods none subject)).value with
  | true => rfl
  | false => simpa using elapsed_keep (fun id => elapsed_any h _) ids.toList

/-- The menu filter takes no time. -/
theorem elapsed_filterMenu (subject : Option Subject) (items : List MenuItem) :
    (filterMenu ask subject items).elapsed = 0 := by
  induction items with
  | nil => rfl
  | cons item rest ih =>
      rw [filterMenu, Run.elapsed_bind, h]
      cases (ask (menuInquiry subject item)).value with
      | true => simp [elapsed_keep fun c => h (menuInquiry subject c), ih]
      | false => simpa using ih

end AtOnce

end AccessGate.Derived
