/-
# What bulk answers rest on

An operation on many things says yes to one of them because a single question was answered
with yes, and it was under way at least as long as that answer took. Both stay so behind a
gateway: what the operation is given time for, the single question is given time for too;
and if the operation is denied it says yes to nothing.

* `Derived.Affirmed` : a yes within some time;
* `Derived.affirmed_of_all`, `Derived.affirmed_of_filterDags`, `Derived.affirmed_of_filterMenu` :
  where the yes of a derived operation comes from;
* `Decision.RestsOn` : what each part of an answer rests on;
* `Manager.Grounded` : managers whose answers rest on their single answers;
* `Manager.IsBackend.grounded` : backends are such managers;
* `Manager.Grounded.behindAll` : and so they are behind gateways.
-/
import AccessGate.Proofs.Batch
import AccessGate.Proofs.Decision

namespace AccessGate

/-- What is in time is so if it takes less. -/
theorem InTime.mono {limit : Option Nat} {t t' : Nat} (h : InTime limit t') (hle : t ≤ t') :
    InTime limit t :=
  fun l hl => Nat.le_trans hle (h l hl)

/-! ## Derived operations -/

namespace Derived

variable (ask : Inquiry → Run Bool)

/-- Whether an inquiry is answered with yes within some time. -/
structure Affirmed (t : Nat) (i : Inquiry) : Prop where
  yes : (ask i).value = true
  inTime : (ask i).elapsed ≤ t

variable {ask} {is : List Inquiry} {i : Inquiry} {t t' : Nat}

theorem Affirmed.mono (h : Affirmed ask t i) (hle : t ≤ t') : Affirmed ask t' i :=
  ⟨h.yes, Nat.le_trans h.inTime hle⟩

/-- If all inquiries are answered with yes then each is, while all are asked. -/
theorem affirmed_of_all (h : (all ask is).value = true) :
    ∀ i ∈ is, Affirmed ask (all ask is).elapsed i := by
  induction is with
  | nil => simp
  | cons j is ih =>
      rw [all, Run.value_bind] at h
      rw [all, Run.elapsed_bind]
      cases hj : (ask j).value with
      | false =>
          rw [hj] at h
          cases h
      | true =>
          rw [hj] at h
          intro i hi
          rcases List.mem_cons.mp hi with rfl | hi
          · exact ⟨hj, Nat.le_add_right _ _⟩
          · exact (ih h i hi).mono (Nat.le_add_left _ _)

/-- If some inquiry is answered with yes then one is found that is. -/
theorem affirmed_of_any (h : (any ask is).value = true) :
    ∃ i ∈ is, Affirmed ask (any ask is).elapsed i := by
  induction is with
  | nil => cases h
  | cons j is ih =>
      rw [any, Run.value_bind] at h
      rw [any, Run.elapsed_bind]
      cases hj : (ask j).value with
      | true => exact ⟨j, List.mem_cons_self, hj, Nat.le_add_right _ _⟩
      | false =>
          rw [hj] at h
          obtain ⟨i, hi, haffirmed⟩ := ih h
          exact ⟨i, List.mem_cons_of_mem j hi, haffirmed.mono (Nat.le_add_left _ _)⟩

/-- Each item is tested while items are kept. -/
theorem elapsed_le_keep {α : Type} (test : α → Run Bool) {as : List α} {a : α} (ha : a ∈ as) :
    (test a).elapsed ≤ (keep test as).elapsed := by
  induction as with
  | nil => cases ha
  | cons b as ih =>
      rw [keep, Run.elapsed_bind, Run.elapsed_bind]
      rcases List.mem_cons.mp ha with rfl | ha
      · exact Nat.le_add_right _ _
      · have hle := ih ha
        omega

/-- The questions that an id can be kept for: those about all DAGs, and those about it. -/
def idInquiries (methods : List Method) (subject : Option Subject) (id : String) : List Inquiry :=
  dagInquiries methods none subject ++ dagInquiries methods (some (.ofId id)) subject

/-- The DAG filter keeps an id because one of its questions is answered with yes. -/
theorem affirmed_of_filterDags {ids : DagIds} {methods : List Method} {subject : Option Subject}
    {id : String} (h : id ∈ (filterDags ask ids methods subject).value.toList) :
    ∃ i ∈ idInquiries methods subject id,
      Affirmed ask (filterDags ask ids methods subject).elapsed i := by
  rw [filterDags, Run.value_bind] at h
  rw [filterDags, Run.elapsed_bind]
  cases hall : (any ask (dagInquiries methods none subject)).value with
  | true =>
      obtain ⟨i, hi, haffirmed⟩ := affirmed_of_any hall
      exact ⟨i, List.mem_append_left _ hi, haffirmed.mono (Nat.le_add_right _ _)⟩
  | false =>
      rw [hall] at h
      let test : String → Run Bool := fun id =>
        any ask (dagInquiries methods (some (.ofId id)) subject)
      have hkept : id ∈ (keep test ids.toList).value := DagIds.mem_ofList.mp h
      rw [value_keep, List.mem_filter] at hkept
      obtain ⟨hid, hone⟩ := hkept
      -- the id was tested on the way, and its test found a yes
      obtain ⟨i, hi, haffirmed⟩ := affirmed_of_any hone
      refine ⟨i, List.mem_append_right _ hi, haffirmed.mono ?_⟩
      refine Nat.le_trans (elapsed_le_keep test hid) ?_
      simp [test]

/-- The listing of permitted DAGs has an id because the filter keeps it. -/
theorem affirmed_of_permittedDags {source : DagSource} {methods : List Method}
    {subject : Option Subject} {kept : DagIds} {id : String}
    (h : (permittedDags (filterDags ask) source methods subject).value = .ok kept)
    (hid : id ∈ kept.toList) :
    ∃ i ∈ idInquiries methods subject id,
      Affirmed ask (permittedDags (filterDags ask) source methods subject).elapsed i := by
  rw [value_permittedDags] at h
  rw [elapsed_permittedDags]
  cases hsource : source.value with
  | error f =>
      rw [hsource] at h
      cases h
  | ok ids =>
      rw [hsource] at h
      have hkept : (filterDags ask ids methods subject).value = kept := Except.ok.inj h
      rw [← hkept] at hid
      obtain ⟨i, hi, haffirmed⟩ := affirmed_of_filterDags hid
      exact ⟨i, hi, haffirmed.mono (Nat.le_add_left _ _)⟩

/-- What is below an entry does not guard it. -/
theorem menuInquiry_withChildren (subject : Option Subject) (item : MenuItem)
    (cs : List MenuItem) :
    menuInquiry subject (item.withChildren cs) = menuInquiry subject item := by
  rw [menuInquiry, MenuItem.name_withChildren, menuInquiry]

/-- The menu filter keeps an entry because its own question is answered with yes, and the
same holds of each child that it keeps. -/
theorem affirmed_of_filterMenu {subject : Option Subject} {items : List MenuItem} {item : MenuItem}
    (h : item ∈ (filterMenu ask subject items).value) :
    ∀ c, c = item ∨ c ∈ item.children →
      Affirmed ask (filterMenu ask subject items).elapsed (menuInquiry subject c) := by
  induction items with
  | nil => cases h
  | cons first rest ih =>
      rw [filterMenu, Run.value_bind] at h
      rw [filterMenu, Run.elapsed_bind]
      cases hfirst : (ask (menuInquiry subject first)).value with
      | false =>
          rw [hfirst] at h
          intro c hc
          exact (ih h c hc).mono (Nat.le_add_left _ _)
      | true =>
          rw [hfirst] at h
          simp only [if_true, Run.elapsed_bind, Run.elapsed_pure]
          rcases List.mem_cons.mp h with rfl | h
          · rintro c (rfl | hc)
            · rw [menuInquiry_withChildren]
              exact ⟨hfirst, Nat.le_add_right _ _⟩
            · rw [MenuItem.children_withChildren, value_keep, List.mem_filter] at hc
              refine ⟨hc.2, ?_⟩
              have hle := elapsed_le_keep (fun c => ask (menuInquiry subject c)) hc.1
              omega
          · intro c hc
            refine (ih h c hc).mono ?_
            omega

end Derived

/-! ## Grounds of decisions -/

/-- What the answer to a decision rests on, part by part: for each list, one of its
inquiries has to be allowed. -/
def Decision.RestsOn : (q : Decision) → q.Answer → List Inquiry → Prop
  | check i, allowed, is => allowed = true ∧ is = [i]
  | batch rs, allowed, is => allowed = true ∧ ∃ r ∈ rs, is = [r.inquiry]
  | filterDags _ methods subject, kept, is =>
      ∃ id ∈ kept.toList, is = Derived.idInquiries methods subject id
  | permittedDags _ methods subject, listing, is =>
      ∃ kept, listing = .ok kept ∧ ∃ id ∈ kept.toList, is = Derived.idInquiries methods subject id
  | filterMenu _ subject, kept, is =>
      ∃ item ∈ kept, ∃ c, (c = item ∨ c ∈ item.children) ∧ is = [Derived.menuInquiry subject c]

/-- A denial rests on nothing. -/
theorem Decision.not_restsOn_denial (q : Decision) (is : List Inquiry) :
    ¬q.RestsOn q.denial is := by
  cases q <;> simp [RestsOn, denial, DagIds.empty]

namespace Manager

variable {m : Manager}

/-- Whether every answer of a manager rests on single answers that the manager gives in no
more time. -/
def Grounded (m : Manager) : Prop :=
  ∀ (q : Decision) (is : List Inquiry), q.RestsOn (q.ask m).value is →
    ∃ i ∈ is, Derived.Affirmed m.check (q.ask m).elapsed i

/-- The managers at the end of the way: a backend with the derived operations, and the
static one, which has a batch of its own. -/
inductive IsBackend : Manager → Prop where
  | derived (b : Backend) : IsBackend b.manager
  | static (t : GrantTable) : IsBackend t.manager

/-- Decisions are the derived ones in either case. -/
theorem IsBackend.exists_backend (h : m.IsBackend) :
    ∃ b : Backend, ∀ q : Decision, q.ask m = q.ask b.manager := by
  cases h with
  | derived b => exact ⟨b, fun _ => rfl⟩
  | static t =>
      refine ⟨t.backend, ?_⟩
      intro q
      cases q with
      | batch rs => exact t.batch_eq rs
      | _ => rfl

/-- What derived operations answer rests on the answers they are derived from. -/
theorem grounded_backend (b : Backend) : b.manager.Grounded := by
  intro q is h
  cases q with
  | check i =>
      obtain ⟨hyes, rfl⟩ := h
      exact ⟨i, List.mem_singleton.mpr rfl, hyes, Nat.le_refl _⟩
  | batch rs =>
      obtain ⟨hyes, r, hr, rfl⟩ := h
      exact ⟨r.inquiry, List.mem_singleton.mpr rfl,
        Derived.affirmed_of_all hyes _ (List.mem_map_of_mem hr)⟩
  | filterDags ids methods subject =>
      obtain ⟨id, hid, rfl⟩ := h
      exact Derived.affirmed_of_filterDags hid
  | permittedDags source methods subject =>
      obtain ⟨kept, hkept, id, hid, rfl⟩ := h
      exact Derived.affirmed_of_permittedDags hkept hid
  | filterMenu items subject =>
      obtain ⟨item, hitem, c, hc, rfl⟩ := h
      exact ⟨_, List.mem_singleton.mpr rfl, Derived.affirmed_of_filterMenu hitem c hc⟩

/-- **Backends are grounded.** -/
theorem IsBackend.grounded (h : m.IsBackend) : m.Grounded := by
  obtain ⟨b, hb⟩ := h.exists_backend
  have hcheck : m.check = b.manager.check := funext fun i => hb (.check i)
  intro q is hrests
  rw [hb] at hrests ⊢
  rw [hcheck]
  exact grounded_backend b q is hrests

/-- Whether a manager grants nothing: no part of an answer is there to rest on anything. -/
def GrantsNothing (m : Manager) : Prop :=
  ∀ (q : Decision) (is : List Inquiry), ¬q.RestsOn (q.ask m).value is

/-- A manager that is not there grants nothing. -/
theorem grantsNothing_unavailable (vendor : String) : (unavailable vendor).GrantsNothing := by
  intro q is h
  cases q with
  | permittedDags source methods subject =>
      obtain ⟨kept, hkept, -⟩ := h
      cases hkept
  | _ => exact Decision.not_restsOn_denial _ is h

/-! ## Behind gateways -/

/-- What is granted through a gateway is granted in time, and the gateway leaves it as it
is. -/
theorem restsOn_behind {limit : Option Nat} {q : Decision} {is : List Inquiry}
    (h : q.RestsOn (q.ask (m.behind limit)).value is) :
    InTime limit (q.ask m).elapsed ∧ q.ask (m.behind limit) = q.ask m := by
  rw [Decision.ask_behind] at h ⊢
  by_cases hin : InTime limit (q.ask m).elapsed
  · exact ⟨hin, Decision.decided_of_inTime hin⟩
  · rw [Decision.value_decided, if_neg hin] at h
    exact absurd h (q.not_restsOn_denial is)

/-- **A gateway takes no ground away.** If it leaves an operation the time it needs, then it
leaves the single question this time too. -/
theorem Grounded.behind (h : m.Grounded) (limit : Option Nat) : (m.behind limit).Grounded := by
  intro q is hrests
  obtain ⟨hin, hask⟩ := restsOn_behind hrests
  rw [hask] at hrests ⊢
  obtain ⟨i, hi, haffirmed⟩ := h q is hrests
  have hcheck : (m.behind limit).check i = m.check i :=
    Decision.decided_of_inTime (hin.mono haffirmed.inTime)
  refine ⟨i, hi, ?_, ?_⟩
  · rw [hcheck, haffirmed.yes]
  · rw [hcheck]
    exact haffirmed.inTime

/-- So it is behind any number of gateways. -/
theorem Grounded.behindAll (h : m.Grounded) (limits : List (Option Nat)) :
    (m.behindAll limits).Grounded := by
  induction limits with
  | nil => exact h
  | cons l ls ih => exact ih.behind l

/-- A gateway grants nothing that is not granted behind it. -/
theorem GrantsNothing.behind (h : m.GrantsNothing) (limit : Option Nat) :
    (m.behind limit).GrantsNothing := by
  intro q is hrests
  rw [(restsOn_behind hrests).2] at hrests
  exact h q is hrests

/-- Gateways without limits leave every decision as it is. -/
theorem ask_behindAll_of_none {limits : List (Option Nat)} (h : ∀ l ∈ limits, l = none)
    (m : Manager) (q : Decision) : q.ask (m.behindAll limits) = q.ask m := by
  induction limits with
  | nil => rfl
  | cons l ls ih =>
      rw [← ih fun l' hl' => h l' (List.mem_cons_of_mem l hl')]
      rw [h l List.mem_cons_self]
      exact (Decision.ask_behind q none _).trans
        (Decision.decided_of_inTime (inTime_none _))

end Manager

end AccessGate
