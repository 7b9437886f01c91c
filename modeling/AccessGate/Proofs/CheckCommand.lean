/-
# The question of a check command

The arguments of a check are a resource, a method, and perhaps an id and a part of a DAG. They
describe one question or none. A check command puts the question they describe to the access
manager, and nothing else; if they describe none it is refused before the manager is asked
anything.

* `CheckArguments.Carries` : details that hold an id and a part, and are left out without them;
* `CheckArguments.Describes` : the question that arguments describe;
* `CheckArguments.AtFault`, `CheckArguments.Refused` : arguments that describe none, and the fault
  that is found in them;
* `CheckArguments.question_eq_ok_iff`, `CheckArguments.question_eq_error_iff` : arguments are read
  so;
* `Command.decide_asks_described` : what a check command asks and answers.
-/
import AccessGate.Command
import AccessGate.Proofs.Spelling

namespace AccessGate

/-! ## Details -/

/-- Details are told apart by their ids and by the parts of DAGs that they name. -/
theorem Details.ext_dagPart {k : RecordKind} {d d' : Details k} (hid : d.id = d'.id)
    (hpart : d.dagPart = d'.dagPart) : d = d' := by
  obtain ⟨id, part⟩ := d
  obtain ⟨id', part'⟩ := d'
  cases hid
  match k with
  | .dag => exact congrArg (Details.mk id) hpart
  | .configuration | .connection | .dataset | .pool | .variable =>
      exact congrArg (Details.mk id) (Subsingleton.elim part part')

/-- Only the details of DAGs name a part. -/
theorem Details.dagPart_of_ne_dag {k : RecordKind} (hk : k ≠ .dag) (d : Details k) :
    d.dagPart = none := by
  match k with
  | .dag => exact absurd rfl hk
  | .configuration | .connection | .dataset | .pool | .variable => rfl

namespace CheckArguments

variable {a : CheckArguments} {k : RecordKind} {q : Question} {f : CommandFault}

/-- Whether details carry the id and the part of some arguments, and nothing else. They are
left out if and only if neither is given. -/
def Carries (a : CheckArguments) : Option (Details k) → Prop
  | none => a.id = none ∧ a.part = none
  | some d => ¬(a.id = none ∧ a.part = none) ∧ d.id = a.id ∧ d.dagPart = a.part

/-- Arguments leave no choice of the details that carry them. -/
theorem Carries.unique {d d' : Option (Details k)} (h : a.Carries d) (h' : a.Carries d') :
    d = d' := by
  cases d with
  | none =>
      cases d' with
      | none => rfl
      | some d' => exact absurd h h'.1
  | some d =>
      cases d' with
      | none => exact absurd h' h.1
      | some d' =>
          obtain ⟨-, hid, hpart⟩ := h
          obtain ⟨-, hid', hpart'⟩ := h'
          exact congrArg some (Details.ext_dagPart (hid.trans hid'.symm) (hpart.trans hpart'.symm))

/-- So a part is carried about a DAG alone. -/
theorem Carries.fits {d : Option (Details k)} (h : a.Carries d) : a.part = none ∨ k = .dag := by
  cases d with
  | none => exact .inl h.2
  | some d =>
      obtain ⟨-, -, hpart⟩ := h
      by_cases hk : k = .dag
      · exact .inr hk
      · exact .inl (hpart.symm.trans (Details.dagPart_of_ne_dag hk d))

/-- About anything but a DAG only the id makes details. -/
theorem details_of_ne_dag (hk : k ≠ .dag) (a : CheckArguments) :
    a.details k = a.id.map Details.ofId := by
  match k with
  | .dag => exact absurd rfl hk
  | .configuration | .connection | .dataset | .pool | .variable => rfl

/-- Details are read from arguments so, unless there is a part that they cannot carry. -/
theorem carries_details (h : a.part = none ∨ k = .dag) : a.Carries (a.details k) := by
  by_cases hk : k = .dag
  · subst hk
    by_cases hnone : a.id = none ∧ a.part = none
    · simp [details, hnone, Carries]
    · simp [details, hnone, Carries, Details.dagPart]
  · have hpart : a.part = none := h.resolve_right hk
    rw [details_of_ne_dag hk]
    cases hid : a.id with
    | none => exact ⟨hid, hpart⟩
    | some id =>
        have hdagPart := Details.dagPart_of_ne_dag hk (Details.ofId id)
        exact ⟨by simp [hid], hid.symm, hdagPart.trans hpart.symm⟩

/-! ## What arguments describe -/

/-- The question that arguments describe. Records are asked about with a method, in whichever
case it is spelled, and with details that carry the id and the part; a system view by its name,
and whatever the method; a custom view by its name and with the method as it is spelled, which
is one of the five only if it is exactly their spelling. -/
inductive Describes (a : CheckArguments) : Question → Prop where
  | record {k : RecordKind} {m : Method} {d : Option (Details k)} :
      a.resource = .record k → SameUpToCase a.method m.name → a.Carries d →
        Describes a (.record k m d)
  | view {v : SystemView} :
      a.resource = .view → a.part = none → a.id = some v.name → Describes a (.view v)
  | customView {action : Action} {name : String} :
      a.resource = .customView → a.part = none → a.id = some name → action.text = a.method →
        (action.isStandard = true ↔ ∃ m : Method, m.name = a.method) →
          Describes a (.customView action name)

/-- Whether arguments describe no question: a part is given about anything but a DAG, a method is
needed and its spelling is none in any case, or a view has to be named and is not. -/
inductive AtFault (a : CheckArguments) : Prop where
  | partOutsideDags : a.part ≠ none → a.resource ≠ .record .dag → AtFault a
  | unknownMethod {k : RecordKind} :
      a.resource = .record k → (∀ m : Method, ¬SameUpToCase a.method m.name) → AtFault a
  | viewNotNamed : a.resource = .view → (∀ v : SystemView, a.id ≠ some v.name) → AtFault a
  | customViewNotNamed : a.resource = .customView → a.id = none → AtFault a

/-- The fault that is found. A part without a DAG comes before all others. -/
inductive Refused (a : CheckArguments) : CommandFault → Prop where
  | partOutsideDags :
      a.part ≠ none → a.resource ≠ .record .dag → Refused a .partOutsideDags
  | unknownMethod {k : RecordKind} :
      a.resource = .record k → (a.part = none ∨ k = .dag) →
        (∀ m : Method, ¬SameUpToCase a.method m.name) →
          Refused a (.unknownName ⟨.method, a.method⟩)
  | viewNotNamed :
      a.resource = .view → a.part = none → a.id = none → Refused a .viewNotNamed
  | unknownView {name : String} :
      a.resource = .view → a.part = none → a.id = some name →
        (∀ v : SystemView, v.name ≠ name) → Refused a (.unknownName ⟨.systemView, name⟩)
  | customViewNotNamed :
      a.resource = .customView → a.part = none → a.id = none → Refused a .customViewNotNamed

/-- A part is in its place where the details of the resource can carry it. -/
theorem not_partOutsideDags (hresource : a.resource = .record k) (h : a.part = none ∨ k = .dag) :
    ¬(a.part ≠ none ∧ a.resource ≠ .record .dag) := by
  rintro ⟨hpart, hdag⟩
  rcases h with hnone | rfl
  · exact hpart hnone
  · exact hdag hresource

/-- Arguments describe a question or have a fault. -/
theorem describes_or_refused (a : CheckArguments) : (∃ q, a.Describes q) ∨ ∃ f, a.Refused f := by
  by_cases hmisplaced : a.part ≠ none ∧ a.resource ≠ .record .dag
  · exact .inr ⟨_, .partOutsideDags hmisplaced.1 hmisplaced.2⟩
  have hpart : a.resource ≠ .record .dag → a.part = none := by
    intro hdag
    by_contra hsome
    exact hmisplaced ⟨hsome, hdag⟩
  cases hresource : a.resource with
  | record k =>
      have hfits : a.part = none ∨ k = .dag := by
        by_cases hk : k = .dag
        · exact .inr hk
        · exact .inl (hpart (by simp [hresource, hk]))
      by_cases hmethod : ∃ m : Method, SameUpToCase a.method m.name
      · obtain ⟨m, hm⟩ := hmethod
        exact .inl ⟨_, .record hresource hm (carries_details hfits)⟩
      · exact .inr ⟨_, .unknownMethod hresource hfits (not_exists.mp hmethod)⟩
  | view =>
      have hnone := hpart (by simp [hresource])
      cases hid : a.id with
      | none => exact .inr ⟨_, .viewNotNamed hresource hnone hid⟩
      | some name =>
          by_cases hview : ∃ v : SystemView, v.name = name
          · obtain ⟨v, rfl⟩ := hview
            exact .inl ⟨_, .view hresource hnone hid⟩
          · exact .inr ⟨_, .unknownView hresource hnone hid (not_exists.mp hview)⟩
  | customView =>
      have hnone := hpart (by simp [hresource])
      cases hid : a.id with
      | none => exact .inr ⟨_, .customViewNotNamed hresource hnone hid⟩
      | some name =>
          obtain ⟨htext, hstandard⟩ := Action.ofText_eq_iff.mp (rfl : Action.ofText a.method = _)
          exact .inl ⟨_, .customView hresource hnone hid htext hstandard⟩

/-! ## How arguments are read -/

/-- Arguments that describe a question are read as this question. -/
theorem Describes.question_eq (h : a.Describes q) : a.question = .ok q := by
  cases h with
  | record hresource hmethod hdetails =>
      have hfits := hdetails.fits
      have hparsed := Method.parse_eq_ok_iff.mpr hmethod
      have hcarried := (carries_details hfits).unique hdetails
      rw [question, if_neg (not_partOutsideDags hresource hfits)]
      simp only [hresource, hparsed, hcarried]
  | @view v hresource hpart hid =>
      have hparsed : SystemView.parse v.name = .ok v := SystemView.parse_eq_ok_iff.mpr rfl
      simp [question, hresource, hpart, hid, hparsed]
  | customView hresource hpart hid htext hstandard =>
      have hread := Action.ofText_eq_iff.mpr ⟨htext, hstandard⟩
      simp [question, hresource, hpart, hid, hread]

/-- Arguments that have a fault are refused with it. -/
theorem Refused.question_eq (h : a.Refused f) : a.question = .error f := by
  cases h with
  | partOutsideDags hpart hresource => rw [question, if_pos ⟨hpart, hresource⟩]
  | unknownMethod hresource hfits hmethod =>
      have hparsed := Method.parse_eq_error_iff.mpr ⟨rfl, hmethod⟩
      rw [question, if_neg (not_partOutsideDags hresource hfits)]
      simp only [hresource, hparsed]
  | viewNotNamed hresource hpart hid => simp [question, hresource, hpart, hid]
  | unknownView hresource hpart hid hview =>
      have hparsed := SystemView.parse_eq_error_iff.mpr ⟨rfl, hview⟩
      simp [question, hresource, hpart, hid, hparsed]
  | customViewNotNamed hresource hpart hid => simp [question, hresource, hpart, hid]

/-- **Arguments are read as the question that they describe**, and as no other. -/
theorem question_eq_ok_iff : a.question = .ok q ↔ a.Describes q := by
  constructor
  · -- the arguments describe something or have a fault, and either settles how they are read
    intro hread
    rcases describes_or_refused a with ⟨q', hq'⟩ | ⟨f, hf⟩
    · cases hread.symm.trans hq'.question_eq
      exact hq'
    · cases hread.symm.trans hf.question_eq
  · exact Describes.question_eq

/-- About a custom view a method in small letters is a word like any other. -/
example :
    question { resource := .customView, method := "get", id := some "Home" } =
      .ok (.customView (.named "get") "Home") := by
  decide

/-- They are refused with the fault that they have. -/
theorem question_eq_error_iff : a.question = .error f ↔ a.Refused f := by
  constructor
  · intro hread
    rcases describes_or_refused a with ⟨q, hq⟩ | ⟨f', hf'⟩
    · cases hread.symm.trans hq.question_eq
    · cases hread.symm.trans hf'.question_eq
      exact hf'
  · exact Refused.question_eq

/-- So there is never more than one question that arguments describe. -/
theorem Describes.iff_eq (h : a.Describes q) (q' : Question) : a.Describes q' ↔ q' = q := by
  rw [← question_eq_ok_iff, h.question_eq, Except.ok.injEq, eq_comm]

/-- What describes a question is not at fault. -/
theorem Describes.not_atFault (h : a.Describes q) : ¬a.AtFault := by
  intro hfault
  cases h with
  | record hresource hmethod hdetails =>
      cases hfault with
      | partOutsideDags hpart hdag =>
          exact not_partOutsideDags hresource hdetails.fits ⟨hpart, hdag⟩
      | unknownMethod _ hunknown => exact hunknown _ hmethod
      | viewNotNamed hview => cases hresource.symm.trans hview
      | customViewNotNamed hcustom => cases hresource.symm.trans hcustom
  | view hresource hpart hid =>
      cases hfault with
      | partOutsideDags hsome => exact hsome hpart
      | unknownMethod hrecord => cases hresource.symm.trans hrecord
      | viewNotNamed _ hunnamed => exact hunnamed _ hid
      | customViewNotNamed hcustom => cases hresource.symm.trans hcustom
  | customView hresource hpart hid htext hstandard =>
      cases hfault with
      | partOutsideDags hsome => exact hsome hpart
      | unknownMethod hrecord => cases hresource.symm.trans hrecord
      | viewNotNamed hview => cases hresource.symm.trans hview
      | customViewNotNamed _ hnone => cases hid.symm.trans hnone

/-- Where a fault is found, the arguments are at fault. -/
theorem Refused.atFault (h : a.Refused f) : a.AtFault := by
  cases h with
  | partOutsideDags hpart hresource => exact .partOutsideDags hpart hresource
  | unknownMethod hresource hfits hmethod => exact .unknownMethod hresource hmethod
  | viewNotNamed hresource hpart hid => exact .viewNotNamed hresource (by simp [hid])
  | unknownView hresource hpart hid hview =>
      refine .viewNotNamed hresource ?_
      intro v hv
      exact hview v (Option.some.inj (hv.symm.trans hid))
  | customViewNotNamed hresource hpart hid => exact .customViewNotNamed hresource hid

end CheckArguments

/-! ## What a check command asks -/

namespace Command

open CheckArguments

variable {a : CheckArguments} {q : Question} {f : CommandFault}

/-- A check command puts the question that its arguments describe. -/
theorem decide_of_describes (h : a.Describes q) (m : Manager) (who : Option Subject) :
    decide m a who = Except.ok <$> m.check ⟨q, who⟩ := by
  simp only [decide, h.question_eq]
  rfl

/-- With a fault in them it asks nothing. -/
theorem decide_of_refused (h : a.Refused f) (m : Manager) (who : Option Subject) :
    decide m a who = pure (.error f) := by
  simp only [decide, h.question_eq]

/-- **A check command asks what its arguments describe**, for the subject it is given. It fails
if and only if they are at fault, and then asks the manager nothing. Otherwise they describe a
single question, which it asks once, and the answer is the manager's. -/
theorem decide_asks_described (a : CheckArguments) (who : Option Subject) :
    (∀ m : Manager, (∃ f, (decide m a who).value = .error f) ↔ a.AtFault) ∧
      (a.AtFault → ∃ f, a.Refused f ∧ ∀ m : Manager, decide m a who = pure (.error f)) ∧
      (¬a.AtFault → ∃ q, (∀ q', a.Describes q' ↔ q' = q) ∧
        ∀ m : Manager, decide m a who = Except.ok <$> m.check ⟨q, who⟩) := by
  rcases describes_or_refused a with ⟨q, hq⟩ | ⟨f, hf⟩
  · refine ⟨?_, fun hfault => absurd hfault hq.not_atFault, ?_⟩
    · intro m
      refine iff_of_false ?_ hq.not_atFault
      simp [decide_of_describes hq]
    · intro _
      exact ⟨q, hq.iff_eq, fun m => decide_of_describes hq m who⟩
  · refine ⟨?_, ?_, fun hsound => absurd hf.atFault hsound⟩
    · intro m
      exact iff_of_true ⟨f, by simp [decide_of_refused hf]⟩ hf.atFault
    · intro _
      exact ⟨f, hf, fun m => decide_of_refused hf m who⟩

end Command

end AccessGate
