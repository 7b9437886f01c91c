/-
# Selecting once

A service selects when its client is first asked something that needs a backend, from
what is registered at that moment. While there is nothing for its vendor the client
refuses and nothing is kept of that; once there is something, it stays selected whatever
is registered later.

* `Query` : everything a client passes on to its backend, and what it answers without one;
* `Deployment.Keeps`, `Deployment.Persists` : what no step takes back;
* `Service.after`, `Service.replies` : what becomes of a deployment when instances are
  registered and the client is asked, in any order, and what the client replies;
* `Service.Idle`, `Service.Settled` : the time before the selection and the time after it;
* `Service.idle_or_settled` : there is no other, and one event lies between them.
-/
import AccessGate.Manager.Probe
import AccessGate.Proofs.Decision
import AccessGate.Proofs.Deployment

namespace AccessGate

/-! ## What is passed on to a backend -/

/-- An operation that a client passes on to its backend, with what it is given. -/
inductive Query where
  | start
  | commands
  | runCommand (name : String) (arguments : Arguments)
  | subject
  | isLoggedIn
  | subjectName
  | displayName
  | subjectId
  | decide (decision : Decision)

/-- The answer to a decision if there is no backend: a listing fails, the others deny. -/
def Decision.refusal (vendor : String) : (d : Decision) → d.Answer
  | check _ => false
  | batch _ => false
  | filterDags _ _ _ => .empty
  | permittedDags _ _ _ => .error (.noPluginAvailable vendor)
  | filterMenu _ _ => []

namespace Query

/-- What an operation answers. -/
@[reducible] def Answer : Query → Type
  | start => Except Fault Unit
  | commands => List AddedCommand
  | runCommand _ _ => Except Fault String
  | subject => Option Subject
  | isLoggedIn => Bool
  | subjectName => Except Fault String
  | displayName => Except Fault String
  | subjectId => Except Fault (Option String)
  | decide d => d.Answer

/-- Run the operation on a manager. -/
def ask : (q : Query) → Manager → Run q.Answer
  | start, m => m.start
  | commands, m => return m.commands
  | runCommand name arguments, m => m.runCommand name arguments
  | subject, m => m.subject
  | isLoggedIn, m => m.isLoggedIn
  | subjectName, m => m.subjectName
  | displayName, m => m.displayName
  | subjectId, m => m.subjectId
  | decide d, m => d.ask m

/-- The answer if there is no backend for the vendor. -/
def refusal (vendor : String) : (q : Query) → q.Answer
  | start => .error (.noPluginAvailable vendor)
  | commands => []
  | runCommand _ _ => .error (.noPluginAvailable vendor)
  | subject => none
  | isLoggedIn => false
  | subjectName => .error (.noPluginAvailable vendor)
  | displayName => .error (.noPluginAvailable vendor)
  | subjectId => .error (.noPluginAvailable vendor)
  | decide d => d.refusal vendor

end Query

/-- Whether a run answers at once with the refusal: nobody is called for it and nothing is
waited for. -/
structure Query.Refuses (vendor : String) (q : Query) (run : Run q.Answer) : Prop where
  value : run.value = q.refusal vendor
  calls : run.calls = []
  elapsed : run.elapsed = 0

/-- **A manager that is not there refuses** whatever it is asked. -/
theorem Query.refuses_unavailable (vendor : String) (q : Query) :
    q.Refuses vendor (q.ask (.unavailable vendor)) := by
  cases q with
  | decide d => cases d <;> exact ⟨rfl, rfl, rfl⟩
  | _ => exact ⟨rfl, rfl, rfl⟩

namespace Deployment

variable {d d' d'' : Deployment} {s : Service} {api : Api} {i : Instance}

/-! ## What is never taken back -/

/-- Whether a deployment has the services of another one, and every service that had
selected there has the same selected. -/
structure Keeps (d d' : Deployment) : Prop where
  services : d'.services = d.services
  selected : ∀ s api, d.selected? s = some api → d'.selected? s = some api

namespace Keeps

theorem refl (d : Deployment) : d.Keeps d :=
  ⟨rfl, fun _ _ h => h⟩

theorem trans (h : d.Keeps d') (h' : d'.Keeps d'') : d.Keeps d'' where
  services := h'.services.trans h.services
  selected s api hs := h'.selected s api (h.selected s api hs)

/-- Registering does not touch what is selected. -/
theorem register (number : Nat) (i : Instance) (d : Deployment) :
    d.Keeps ((register number i).run d).value.2 := by
  rcases value_register number i d with h | h
  · rw [h]
    exact refl d
  · rw [h]
    exact ⟨rfl, fun _ _ hs => hs⟩

/-- A selection is added behind those there are, which come first when one is looked up. -/
theorem select (s : Service) (d : Deployment) : d.Keeps ((select s).run d).value.2 := by
  rcases value_select s d with ⟨api, -, h⟩ | h | ⟨i, -, h⟩
  · rw [h]
    exact refl d
  · rw [h]
    exact refl d
  · rw [h]
    refine ⟨rfl, ?_⟩
    intro s' api hs'
    rw [selected?] at hs' ⊢
    rw [List.lookup_append, hs', Option.some_or]

/-- Following selections only adds to them. -/
theorem managerWithin (steps : Nat) (api : Api) (d : Deployment) :
    d.Keeps ((managerWithin steps api).run d).value.2 := by
  induction steps generalizing api d with
  | zero => cases api <;> exact refl d
  | succ steps ih =>
      cases api with
      | direct m => exact refl d
      | client s =>
          have hselect := Keeps.select s d
          rw [Deployment.managerWithin]
          simp only [StateT.run_bind, Run.value_bind]
          cases hv : ((Deployment.select s).run d).value with
          | mk selected d' =>
              rw [hv] at hselect
              cases selected with
              | none => exact hselect
              | some next => simpa using hselect.trans (ih next d')

end Keeps

/-- Performing an operation is following selections, with the operation behind it. -/
theorem run_perform {α : Type} (api : Api) (operation : Manager → Run α) (d : Deployment) :
    (perform api operation).run d =
      (managerWithin d.services api).run d >>= fun p => (fun a => (a, p.2)) <$> operation p.1 := by
  rw [perform, StateT.run_bind]
  simp [manager]

/-- Operations only add selections. -/
theorem Keeps.perform {α : Type} (api : Api) (operation : Manager → Run α) (d : Deployment) :
    d.Keeps ((perform api operation).run d).value.2 := by
  rw [run_perform]
  exact managerWithin d.services api d

/-- The deployment in which a service has also selected an instance. -/
def withSelection (d : Deployment) (s : Service) (i : Instance) : Deployment :=
  { d with selections := d.selections ++ [(s.number, i.api)] }

/-- Whether a deployment has all services of another one, and maybe more, and every service that
had selected there has the same selected. -/
structure Persists (d d' : Deployment) : Prop where
  services : d.services ≤ d'.services
  selected : ∀ s api, d.selected? s = some api → d'.selected? s = some api

namespace Persists

theorem refl (d : Deployment) : d.Persists d :=
  ⟨Nat.le_refl _, fun _ _ h => h⟩

theorem trans (h : d.Persists d') (h' : d'.Persists d'') : d.Persists d'' where
  services := Nat.le_trans h.services h'.services
  selected s api hs := h'.selected s api (h.selected s api hs)

/-- Making services takes nothing back. -/
theorem moreServices (d : Deployment) (n : Nat) :
    d.Persists { d with services := d.services + n } :=
  ⟨Nat.le_add_right _ _, fun _ _ h => h⟩

/-- A selection is added behind those there are. -/
theorem withSelection (s : Service) (i : Instance) (d : Deployment) :
    d.Persists (d.withSelection s i) := by
  refine ⟨Nat.le_refl _, ?_⟩
  intro s' api hs'
  rw [selected?] at hs' ⊢
  rw [Deployment.withSelection, List.lookup_append, hs', Option.some_or]

end Persists

theorem Keeps.persists (h : d.Keeps d') : d.Persists d' :=
  ⟨Nat.le_of_eq h.services.symm, h.selected⟩

/-! ## Operations on a client -/

/-- Run an operation on an api through a service that has selected it. The service is not
on the way from the api, which therefore passes one service less. -/
def performThrough {α : Type} (s : Service) (api : Api) (operation : Manager → Run α) :
    Activity α := do
  let m ← managerWithin ((← get).services - 1) api
  operation (m.behind s.limit)

/-- The service is the last gateway on the way. -/
theorem run_performThrough {α : Type} (s : Service) (api : Api) (operation : Manager → Run α)
    (d : Deployment) :
    (performThrough s api operation).run d =
      (managerWithin (d.services - 1) api).run d >>= fun p =>
        (fun a => (a, p.2)) <$> operation (p.1.behind s.limit) := by
  simp [performThrough]

/-- Through a service that has selected a manager, an operation is one on this manager. -/
theorem run_performThrough_direct {α : Type} (s : Service) (m : Manager)
    (operation : Manager → Run α) (d : Deployment) :
    (performThrough s (.direct m) operation).run d =
      (fun a => (a, d)) <$> operation (m.behind s.limit) := by
  rw [run_performThrough]
  cases d.services - 1 <;> rfl

/-- Operations through a service only add selections too. -/
theorem Keeps.performThrough {α : Type} (s : Service) (api : Api) (operation : Manager → Run α)
    (d : Deployment) : d.Keeps ((performThrough s api operation).run d).value.2 := by
  rw [run_performThrough]
  exact managerWithin (d.services - 1) api d

/-- What a service selects it has selected afterwards. -/
theorem selected?_withSelection (h : d.selected? s = none) (i : Instance) :
    (d.withSelection s i).selected? s = some i.api := by
  rw [selected?] at h ⊢
  rw [withSelection, List.lookup_append, h]
  simp

section Client

variable {α : Type} (operation : Manager → Run α) (hs : s.number < d.services)
include hs

/-- A client whose service has selected does not select again. -/
theorem run_perform_of_selected (h : d.selected? s = some api) :
    (perform (.client s) operation).run d = (performThrough s api operation).run d := by
  obtain ⟨n, hn⟩ := Nat.exists_eq_add_of_lt hs
  have hselect : (select s).run d = pure (some api, d) := by
    simp [select, h]
  rw [run_perform, hn, managerWithin, StateT.run_bind, hselect]
  simp [performThrough, hn]

/-- A client whose registry has nothing for it refuses, and nothing is selected. -/
theorem run_perform_of_nothing (h : d.selected? s = none)
    (hr : (d.registry s.registry).select? s.vendor = none) :
    (perform (.client s) operation).run d =
      (fun a => (a, d)) <$> operation (.unavailable s.vendor) := by
  obtain ⟨n, hn⟩ := Nat.exists_eq_add_of_lt hs
  have hselect : (select s).run d = pure (none, d) := by
    simp [select, h, hr]
  rw [run_perform, hn, managerWithin, StateT.run_bind, hselect]
  simp

/-- A client whose registry has something for it selects that, says so, and goes on as if
it had selected it before. -/
theorem run_perform_of_something (h : d.selected? s = none)
    (hr : (d.registry s.registry).select? s.vendor = some i) :
    (perform (.client s) operation).run d =
      Run.log [.instanceSelected s.vendor i.id i.priority (d.nameOf i.api)] >>= fun _ =>
        (performThrough s i.api operation).run (d.withSelection s i) := by
  obtain ⟨n, hn⟩ := Nat.exists_eq_add_of_lt hs
  have hselect : (select s).run d = do
      Run.log [.instanceSelected s.vendor i.id i.priority (d.nameOf i.api)]
      return (some i.api, d.withSelection s i) := by
    simp [select, h, hr, withSelection]
  have hservices : (d.withSelection s i).services = s.number + n + 1 := hn
  rw [run_perform, hn, managerWithin, StateT.run_bind, hselect]
  simp [performThrough, hservices]

end Client

end Deployment

/-! ## Events and replies -/

/-- What can happen around a client: an instance is registered, or refused; somebody asks
the client for its name, or for something that needs a backend. -/
inductive Event where
  | register (registry : Nat) (i : Instance)
  | askName
  | ask (query : Query)

/-- Whether the client is asked. -/
def Event.isQuestion : Event → Bool
  | register _ _ => false
  | askName => true
  | ask _ => true

/-- What a client replies: its name, or an answer with what it does for it. -/
inductive Reply where
  | named (name : String)
  | answered (query : Query) (run : Run query.Answer)

namespace Reply

/-- What a manager replies. Registering does not concern it. -/
def of? (m : Manager) : Event → Option Reply
  | .register _ _ => none
  | .askName => some (named m.name)
  | .ask q => some (answered q (q.ask m))

/-- Whether a reply is that of a client without a backend, whose name is the vendor. -/
def Refuses (vendor : String) : Reply → Prop
  | named name => name = vendor
  | answered q run => q.Refuses vendor run

end Reply

namespace Service

open Deployment

variable (s : Service)

/-- The deployment after an event. -/
def next (d : Deployment) : Event → Deployment
  | .register number i => ((register number i).run d).value.2
  | .askName => d
  | .ask q => ((perform (.client s) q.ask).run d).value.2

/-- The deployment after some events. -/
def after (d : Deployment) (es : List Event) : Deployment :=
  es.foldl s.next d

/-- What the client replies to an event. -/
def reply? (d : Deployment) : Event → Option Reply
  | .register _ _ => none
  | .askName => some (.named (d.nameOf (.client s)))
  | .ask q => some (.answered q ((perform (.client s) q.ask).run' d))

/-- What the client replies to some events, in order. -/
def replies (d : Deployment) : List Event → List Reply
  | [] => []
  | e :: es => (s.reply? d e).toList ++ replies (s.next d e) es

variable {s} {d : Deployment} {api : Api} {es : List Event}

/-- No event takes a service or a selection back. -/
theorem keeps_next (s : Service) (d : Deployment) (e : Event) : d.Keeps (s.next d e) := by
  cases e with
  | register number i => exact .register number i d
  | askName => exact .refl d
  | ask q => exact .perform (.client s) q.ask d

theorem after_append (s : Service) (d : Deployment) (xs ys : List Event) :
    s.after d (xs ++ ys) = s.after (s.after d xs) ys :=
  List.foldl_append

/-- The name of a client whose service has selected a manager is the manager's. -/
theorem nameOf_of_selected (hs : s.number < d.services) {m : Manager}
    (h : d.selected? s = some (.direct m)) : d.nameOf (.client s) = m.name := by
  obtain ⟨n, hn⟩ := Nat.exists_eq_add_of_lt hs
  rw [nameOf, hn, nameWithin, h]
  cases s.number + n <;> rfl

/-- The name of a client whose service has selected nothing is the vendor. -/
theorem nameOf_of_unselected (hs : s.number < d.services) (h : d.selected? s = none) :
    d.nameOf (.client s) = s.vendor := by
  obtain ⟨n, hn⟩ := Nat.exists_eq_add_of_lt hs
  rw [nameOf, hn, nameWithin, h]

/-! ## After the selection -/

/-- A client has a backend all along: its service has it selected at every moment, what
needs a backend is passed on to it, and if it is a manager then the replies are those of
this manager behind the gateway, whatever else happens. -/
structure Settled (s : Service) (d : Deployment) (api : Api) (es : List Event) : Prop where
  selected : ∀ before rest, es = before ++ rest → (s.after d before).selected? s = some api
  passedOn : ∀ before q rest, es = before ++ .ask q :: rest →
    (perform (.client s) q.ask).run (s.after d before) =
      (performThrough s api q.ask).run (s.after d before)
  replied : ∀ m, api = .direct m → s.replies d es = es.filterMap (Reply.of? (m.behind s.limit))

/-- One reply of a client that has selected a manager. -/
theorem reply?_of_selected (hs : s.number < d.services) {m : Manager}
    (h : d.selected? s = some (.direct m)) (e : Event) :
    s.reply? d e = Reply.of? (m.behind s.limit) e := by
  cases e with
  | register number i => rfl
  | askName => rw [reply?, nameOf_of_selected hs h, Reply.of?]; rfl
  | ask q =>
      rw [reply?, StateT.run'_eq, run_perform_of_selected q.ask hs h, run_performThrough_direct,
        Reply.of?]
      simp

/-- **What is selected stays selected.** -/
theorem settled (hs : s.number < d.services) (h : d.selected? s = some api) (es : List Event) :
    s.Settled d api es := by
  induction es generalizing d with
  | nil =>
      refine ⟨?_, ?_, ?_⟩
      · intro before rest hes
        obtain ⟨rfl, rfl⟩ := List.append_eq_nil_iff.mp hes.symm
        exact h
      · intro before q rest hes
        simp at hes
      · intro m _
        rfl
  | cons e es ih =>
      -- the event leaves the selection, so the client is settled over the events behind it
      have hkeeps := keeps_next s d e
      have hnext := ih (hkeeps.services ▸ hs) (hkeeps.selected s api h)
      refine ⟨?_, ?_, ?_⟩
      · intro before rest hes
        rcases List.cons_eq_append_iff.mp hes with ⟨rfl, -⟩ | ⟨tail, rfl, htail⟩
        · exact h
        · exact hnext.selected tail rest htail
      · intro before q rest hes
        rcases List.cons_eq_append_iff.mp hes with ⟨rfl, -⟩ | ⟨tail, rfl, htail⟩
        · exact run_perform_of_selected q.ask hs h
        · exact hnext.passedOn tail q rest htail
      · rintro m rfl
        rw [replies, hnext.replied m rfl, reply?_of_selected hs h, List.filterMap_cons]
        cases Reply.of? (m.behind s.limit) e <;> rfl

/-- Registrations are of no account once a manager is selected. -/
theorem replies_filter {m : Manager} (hs : s.number < d.services)
    (h : d.selected? s = some (.direct m)) (es : List Event) :
    s.replies d es = s.replies d (es.filter Event.isQuestion) := by
  rw [(settled hs h es).replied m rfl, (settled hs h _).replied m rfl, List.filterMap_filter]
  congr 1
  funext e
  cases e <;> rfl

/-! ## Before the selection -/

/-- A client has no backend all along: whenever it needs one its registry has none for its
vendor, nothing is selected at any moment, and every reply is a refusal. -/
structure Idle (s : Service) (d : Deployment) (es : List Event) : Prop where
  nothing : ∀ before q rest, es = before ++ .ask q :: rest →
    ((s.after d before).registry s.registry).select? s.vendor = none
  unselected : ∀ before rest, es = before ++ rest → (s.after d before).selected? s = none
  refused : ∀ r ∈ s.replies d es, r.Refuses s.vendor

/-- Before anything happens a client that has not selected is idle. -/
theorem Idle.nil (h : d.selected? s = none) : s.Idle d [] := by
  refine ⟨?_, ?_, ?_⟩
  · intro before q rest hes
    simp at hes
  · intro before rest hes
    obtain ⟨rfl, rfl⟩ := List.append_eq_nil_iff.mp hes.symm
    exact h
  · intro r hr
    cases hr

/-- A client is idle over one event more if it finds nothing there. -/
theorem Idle.cons {e : Event} (h : d.selected? s = none)
    (hnothing : ∀ q, e = .ask q → (d.registry s.registry).select? s.vendor = none)
    (hrefused : ∀ r ∈ s.reply? d e, r.Refuses s.vendor) (hes : s.Idle (s.next d e) es) :
    s.Idle d (e :: es) := by
  refine ⟨?_, ?_, ?_⟩
  · intro before q rest hsplit
    rcases List.cons_eq_append_iff.mp hsplit with ⟨rfl, hcons⟩ | ⟨tail, rfl, htail⟩
    · cases hcons
      exact hnothing q rfl
    · exact hes.nothing tail q rest htail
  · intro before rest hsplit
    rcases List.cons_eq_append_iff.mp hsplit with ⟨rfl, -⟩ | ⟨tail, rfl, htail⟩
    · exact h
    · exact hes.unselected tail rest htail
  · intro r hr
    rw [replies, List.mem_append] at hr
    rcases hr with hr | hr
    · exact hrefused r (by simpa using hr)
    · exact hes.refused r hr

/-- An event that needs no backend, or finds none, selects nothing. -/
theorem selected?_next_of_nothing (hs : s.number < d.services) (h : d.selected? s = none) (e : Event)
    (hnothing : ∀ q, e = .ask q → (d.registry s.registry).select? s.vendor = none) :
    (s.next d e).selected? s = none := by
  cases e with
  | register number i =>
      rw [next]
      rcases value_register number i d with hv | hv
      · rw [hv]
        exact h
      · rw [hv]
        exact h
  | askName => exact h
  | ask q =>
      rw [next, run_perform_of_nothing q.ask hs h (hnothing q rfl)]
      exact h

/-- A client that has not selected and finds nothing refuses. -/
theorem refuses_of_nothing (hs : s.number < d.services) (h : d.selected? s = none) (e : Event)
    (hnothing : ∀ q, e = .ask q → (d.registry s.registry).select? s.vendor = none) :
    ∀ r ∈ s.reply? d e, r.Refuses s.vendor := by
  intro r hr
  cases e with
  | register number i => cases hr
  | askName =>
      cases hr
      exact nameOf_of_unselected hs h
  | ask q =>
      cases hr
      have hrun : (perform (.client s) q.ask).run' d = q.ask (.unavailable s.vendor) := by
        rw [StateT.run'_eq, run_perform_of_nothing q.ask hs h (hnothing q rfl)]
        simp
      show q.Refuses s.vendor _
      rw [hrun]
      exact q.refuses_unavailable s.vendor

/-! ## The selection -/

/-- **A backend is selected once and for all.** Either a client never has one; or it has
none up to the first question at which its registry has an instance for its vendor. It
then selects the instance that the registry prefers at that moment, passes this question
and all later ones on to it, and if it is a manager then all replies are as they are
without the later registrations. -/
theorem idle_or_settled (hs : s.number < d.services) (h : d.selected? s = none) (es : List Event) :
    s.Idle d es ∨
      ∃ before q rest i,
        es = before ++ .ask q :: rest ∧ s.Idle d before ∧
        ((s.after d before).registry s.registry).select? s.vendor = some i ∧
        (perform (.client s) q.ask).run (s.after d before) =
          (Run.log [.instanceSelected s.vendor i.id i.priority ((s.after d before).nameOf i.api)]
            >>= fun _ => (performThrough s i.api q.ask).run ((s.after d before).withSelection s i)) ∧
        s.Settled (s.after d (before ++ [.ask q])) i.api rest ∧
        ∀ m, i.api = .direct m →
          s.replies d es = s.replies d (before ++ .ask q :: rest.filter Event.isQuestion) := by
  induction es generalizing d with
  | nil => exact .inl (.nil h)
  | cons e es ih =>
      have hkeeps := keeps_next s d e
      by_cases hnothing : ∀ q, e = .ask q → (d.registry s.registry).select? s.vendor = none
      · -- nothing is selected here, so it is the rest of the events that decides
        have hrefused := refuses_of_nothing hs h e hnothing
        rcases ih (hkeeps.services ▸ hs) (selected?_next_of_nothing hs h e hnothing) with
          hidle | ⟨before, q, rest, i, rfl, hidle, hselect, hrun, hsettled, hreplies⟩
        · exact .inl (hidle.cons h hnothing hrefused)
        · refine .inr ⟨e :: before, q, rest, i, rfl, hidle.cons h hnothing hrefused, hselect, hrun,
            hsettled, ?_⟩
          intro m hm
          rw [List.cons_append, replies, hreplies m hm]
          rfl
      · -- the question `q` is the first one that finds something
        obtain ⟨q, hq⟩ := Classical.not_forall.mp hnothing
        obtain ⟨rfl, hfound⟩ := Classical.not_imp.mp hq
        obtain ⟨i, hi⟩ := Option.ne_none_iff_exists'.mp hfound
        have hrun := run_perform_of_something q.ask hs h hi
        have hs' : s.number < (s.next d (.ask q)).services := hkeeps.services ▸ hs
        have hselected : (s.next d (.ask q)).selected? s = some i.api := by
          rw [next, hrun, Run.value_bind]
          exact (Keeps.performThrough s i.api q.ask _).selected s i.api (selected?_withSelection h i)
        refine .inr ⟨[], q, es, i, rfl, .nil h, hi, hrun, settled hs' hselected es, ?_⟩
        intro m hm
        rw [hm] at hselected
        rw [List.nil_append, replies, replies, ← replies_filter hs' hselected]

/-- A client is asked twice before anything is registered, and a preferred instance is
registered when it has selected: it keeps the one it has selected at its third question. -/
theorem idle_or_settled_preferred_too_late :
    let late : Probe := { number := 0, name := "late", subject := some (.withoutId "ada") }
    let preferred : Probe := { number := 1, name := "preferred" }
    let s : Service := ⟨0, 0, "acme", none⟩
    let d : Deployment := { services := 1 }
    let es : List Event :=
      [.askName, .ask .subjectName, .register 0 ⟨"late", "acme", 9, .direct late.manager⟩,
        .register 0 ⟨"late", "acme", 1, .direct preferred.manager⟩, .ask .subject,
        .register 0 ⟨"preferred", "acme", 1, .direct preferred.manager⟩, .askName, .ask .subject]
    s.number < d.services ∧ d.selected? s = none ∧
      ∃ before q rest, es = before ++ .ask q :: rest ∧ s.Idle d before ∧
        s.Settled (s.after d (before ++ [.ask q])) (.direct late.manager) rest := by
  intro late preferred s d es
  have hs : s.number < d.services := Nat.lt_succ_self 0
  have hnone : d.selected? s = none := rfl
  let registered : Deployment :=
    { services := 1, registries := [⟨[⟨"late", "acme", 9, .direct late.manager⟩]⟩] }
  let selected : Deployment := { registered with selections := [(0, .direct late.manager)] }
  have hregistered : s.after d (es.take 4) = registered := rfl
  have hselected : s.after registered [.ask .subject] = selected := rfl
  have hend : (s.after d es).selected? s = some (.direct late.manager) := by
    have hparts : es = es.take 4 ++ ([.ask .subject] ++ es.drop 5) := rfl
    rw [hparts, after_append, hregistered, after_append, hselected]
    rfl
  have hcases := idle_or_settled hs hnone es
  refine ⟨hs, hnone, ?_⟩
  rcases hcases with
    hidle | ⟨before, q, rest, i, hes, hidle, -, -, hsettled, -⟩
  · rw [hidle.unselected es [] (List.append_nil es).symm] at hend
    cases hend
  · have hlast := hsettled.selected rest [] (List.append_nil rest).symm
    rw [← after_append, List.append_assoc, List.singleton_append, ← hes, hend] at hlast
    rw [← Option.some.inj hlast] at hsettled
    exact ⟨before, q, rest, hes, hidle, hsettled⟩

end Service

end AccessGate
