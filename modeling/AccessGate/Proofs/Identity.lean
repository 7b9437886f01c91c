/-
# Who is signed in, through gateways

Who is signed in is told by five operations, and all of them go back to one: the backend is
asked for the subject, and the others are read off its answer. A gateway passes each of them
on to what it has selected and sets no limit, so through any number of gateways they are the
operations of the manager at the end of the way, and agree as they do there. A gateway that
finds no backend does not confuse this with nobody being signed in: it names no subject, and
what cannot be answered without one is a fault of the gateway.

* `Manager.AnswersItself` : the managers at the end of the way;
* `PassedOn` : operations that a gateway passes on as they are;
* `Deployment.run_perform_of_passedOn` : through gateways they are the manager's own;
* `Backend.value_ofSubject`, `Command.value_whoami` : what is read off the subject;
* `Deployment.identity_through_gateways` : what follows for who asks;
* `Deployment.whoami_anonymous_signed_in` : what the command line shows does not tell whether
  somebody is signed in.
-/
import AccessGate.Command
import AccessGate.Manager.Static
import AccessGate.Proofs.Forwarding
import AccessGate.Proofs.Selection

namespace AccessGate

/-! ## The managers at the end of the way -/

/-- Managers that answer themselves and pass nothing on: a backend with the derived
operations, and the static one with any means of finding out who is signed in. -/
inductive Manager.AnswersItself : Manager → Prop where
  | derived (b : Backend) : AnswersItself b.manager
  | static (t : GrantTable) (resolver : Run (Option Subject)) :
      AnswersItself (t.resolvedBy resolver)

/-- The static manager knows by itself who is signed in. -/
theorem GrantTable.answersItself (t : GrantTable) : t.manager.AnswersItself :=
  .static t (return t.current)

/-- Whether an operation tells who is signed in. -/
def Query.isIdentity : Query → Bool
  | subject => true
  | isLoggedIn => true
  | subjectName => true
  | displayName => true
  | subjectId => true
  | _ => false

/-- These operations are the derived ones of a backend. -/
theorem Manager.AnswersItself.exists_backend {m : Manager} (h : m.AnswersItself) :
    ∃ b : Backend, ∀ q : Query, q.isIdentity = true → q.ask m = q.ask b.manager := by
  cases h with
  | derived b => exact ⟨b, fun _ _ => rfl⟩
  | static t resolver =>
      refine ⟨{ t.backend with subject := resolver }, ?_⟩
      intro q hq
      cases q with
      | subject => rfl
      | isLoggedIn => rfl
      | subjectName => rfl
      | displayName => rfl
      | subjectId => rfl
      | start => cases hq
      | commands => cases hq
      | runCommand name arguments => cases hq
      | decide d => cases hq

/-! ## Operations that are passed on -/

/-- Whether a gateway passes an operation on as it is, whatever its limit. -/
def PassedOn {α : Type} (operation : Manager → Run α) : Prop :=
  ∀ limit m, operation (m.behind limit) = operation m

/-- Gateways behind each other pass it on as well. -/
theorem PassedOn.behindAll {α : Type} {operation : Manager → Run α} (h : PassedOn operation)
    (limits : List (Option Nat)) (m : Manager) :
    operation (m.behindAll limits) = operation m := by
  induction limits with
  | nil => rfl
  | cons limit limits ih => exact (h limit (m.behindAll limits)).trans ih

/-- Who is signed in is passed on. -/
theorem Query.passedOn {q : Query} (hq : q.isIdentity = true) : PassedOn q.ask := by
  intro limit m
  cases q with
  | decide d => cases hq
  | _ => rfl

/-- So is what the command line shows of it. -/
theorem Command.passedOn_whoami (dags : DagSource) : PassedOn fun m => run m dags .whoami :=
  fun _ _ => rfl

/-- **Through gateways that have selected, an operation that is passed on is the manager's
own**: it takes the same steps in the same time, and nothing is selected. -/
theorem Deployment.run_perform_of_passedOn {d : Deployment} (hd : d.Reachable) {api : Api}
    {way : List Service} {m : Manager} (h : d.Leads api way m) {α : Type}
    {operation : Manager → Run α} (hoperation : PassedOn operation) :
    (perform api operation).run d = (fun a => (a, d)) <$> operation m := by
  rw [run_perform_of_leads hd h, hoperation.behindAll]

/-- So its answer is the manager's. -/
theorem Deployment.value_perform_of_passedOn {d : Deployment} (hd : d.Reachable) {api : Api}
    {way : List Service} {m : Manager} (h : d.Leads api way m) {α : Type}
    {operation : Manager → Run α} (hoperation : PassedOn operation) :
    ((perform api operation).run' d).value = (operation m).value := by
  rw [StateT.run'_eq, run_perform_of_passedOn hd h hoperation]
  simp

/-! ## What is read off the subject -/

/-- What is asked about the subject is answered if there is one, and otherwise the fault is that
nobody is signed in. -/
theorem Backend.value_ofSubject {α : Type} (b : Backend) (operation : Operation)
    (f : Subject → α) :
    (b.ofSubject operation f).value =
      match b.subject.value with
      | some s => .ok (f s)
      | none => .error .unauthenticated := by
  rw [ofSubject, Run.value_bind]
  cases b.subject.value <;> rfl

/-- The subject as the command line shows it: its name, with its id in brackets if it has one
that is not empty. -/
def Subject.shown (s : Subject) : String :=
  match s.knownId with
  | some id => s.name ++ " (" ++ id ++ ")"
  | none => s.name

/-- The command line shows the subject, or that there is none. -/
theorem Command.value_whoami (b : Backend) (dags : DagSource) :
    (run b.manager dags .whoami).value =
      .ok (.text (match b.subject.value with
        | some s => s.shown
        | none => "anonymous")) := by
  have hname : b.manager.subjectName.value = _ := b.value_ofSubject .subjectName Subject.name
  have hid : b.manager.subjectId.value = _ := b.value_ofSubject .subjectId Subject.knownId
  have hloggedIn : b.manager.isLoggedIn.value = b.subject.value.isSome := rfl
  have htext : (whoamiText b.manager).value = .ok (match b.subject.value with
      | some s => s.shown
      | none => "anonymous") := by
    rw [whoamiText, Run.value_bind, hloggedIn]
    cases hsubject : b.subject.value with
    | none => rfl
    | some s =>
        rw [hsubject] at hname hid
        simp only [Option.isSome_some, if_true, Run.value_bind, hname, hid]
        rw [Subject.shown]
        cases s.knownId <;> rfl
  rw [run, Run.value_bind, htext]
  rfl

/-- A manager that answers itself shows the same on the command line as its backend. -/
theorem Manager.AnswersItself.value_whoami {m : Manager} (h : m.AnswersItself)
    (dags : DagSource) :
    (Command.run m dags .whoami).value =
      .ok (.text (match m.subject.value with
        | some s => s.shown
        | none => "anonymous")) := by
  obtain ⟨b, hb⟩ := h.exists_backend
  have hsubject : m.subject = b.subject := hb .subject rfl
  have hloggedIn : m.isLoggedIn = b.manager.isLoggedIn := hb .isLoggedIn rfl
  have hname : m.subjectName = b.manager.subjectName := hb .subjectName rfl
  have hid : m.subjectId = b.manager.subjectId := hb .subjectId rfl
  have hrun : Command.run m dags .whoami = Command.run b.manager dags .whoami := by
    rw [Command.run, Command.run, Command.whoamiText, Command.whoamiText, hloggedIn, hname, hid]
  rw [hrun, hsubject, Command.value_whoami]

namespace Deployment

variable {d : Deployment}

/-- **Who is signed in is told alike through any number of gateways**, whatever their limits.
Where an api leads to a manager that answers itself, over selections that are made, each of
the five operations, and what the command line shows, is the manager's own, with its steps
and the time it takes; nothing is timed out. The subject is the manager's; somebody is
logged in if there is one; its name, its display name and its id, if that is not empty, are
what is answered, and if there is none these three fail, and only then, as nobody is signed
in. The command line shows the subject, and `anonymous` if there is none; it says this
otherwise only of a subject that is itself shown so. A client that has not selected and finds
nothing names no subject and takes nobody for logged in; the three fail for want of a backend
for its vendor. -/
theorem identity_through_gateways (hd : d.Reachable) :
    (∀ api way m, d.Leads api way m → m.AnswersItself →
      let through (q : Query) := ((perform api q.ask).run' d).value
      let whoami (dags : DagSource) :=
        ((perform api fun m => Command.run m dags .whoami).run' d).value
      (∀ q : Query, q.isIdentity = true →
        (perform api q.ask).run d = (fun a => (a, d)) <$> q.ask m) ∧
      (∀ dags, (perform api fun m => Command.run m dags .whoami).run d =
        (fun a => (a, d)) <$> Command.run m dags .whoami) ∧
      through .subject = m.subject.value ∧
      (through .isLoggedIn = true ↔ ∃ s, through .subject = some s) ∧
      (∀ s, through .subject = some s →
        through .subjectName = .ok s.name ∧ through .displayName = .ok s.name ∧
          through .subjectId = .ok (s.id.filter (· ≠ "")) ∧
            ∀ dags, whoami dags = .ok (.text s.shown)) ∧
      (through .subjectName = .error .unauthenticated ↔ through .subject = none) ∧
      (through .displayName = .error .unauthenticated ↔ through .subject = none) ∧
      (through .subjectId = .error .unauthenticated ↔ through .subject = none) ∧
      (∀ dags, whoami dags = .ok (.text "anonymous") ↔
        through .subject = none ∨ ∃ s, through .subject = some s ∧ s.shown = "anonymous")) ∧
    ∀ s : Service, s.number < d.services → d.selected? s = none →
      (d.registry s.registry).select? s.vendor = none →
      let through (q : Query) := ((perform (.client s) q.ask).run' d).value
      through .subject = none ∧ through .isLoggedIn = false ∧
        through .subjectName = .error (.noPluginAvailable s.vendor) ∧
        through .displayName = .error (.noPluginAvailable s.vendor) ∧
        through .subjectId = .error (.noPluginAvailable s.vendor) := by
  refine ⟨?_, ?_⟩
  · intro api way m hleads hm through whoami
    obtain ⟨b, hb⟩ := hm.exists_backend
    have hrun : ∀ q : Query, q.isIdentity = true →
        (perform api q.ask).run d = (fun a => (a, d)) <$> q.ask m :=
      fun q hq => run_perform_of_passedOn hd hleads (Query.passedOn hq)
    have hwhoami : ∀ dags, (perform api fun m => Command.run m dags .whoami).run d =
        (fun a => (a, d)) <$> Command.run m dags .whoami :=
      fun dags => run_perform_of_passedOn hd hleads (Command.passedOn_whoami dags)
    have hthrough : ∀ q : Query, q.isIdentity = true →
        through q = (q.ask b.manager).value := by
      intro q hq
      rw [← hb q hq]
      exact value_perform_of_passedOn hd hleads (Query.passedOn hq)
    -- each answer is read off the subject of the backend at the end of the way
    have hsubject : through .subject = b.subject.value := hthrough .subject rfl
    have hloggedIn : through .isLoggedIn = b.subject.value.isSome := hthrough .isLoggedIn rfl
    have hname := (hthrough .subjectName rfl).trans (b.value_ofSubject .subjectName Subject.name)
    have hdisplay :=
      (hthrough .displayName rfl).trans (b.value_ofSubject .subjectName Subject.name)
    have hid := (hthrough .subjectId rfl).trans (b.value_ofSubject .subjectId Subject.knownId)
    have hmanager : m.subject.value = b.subject.value := congrArg Run.value (hb .subject rfl)
    have hshown : ∀ dags, whoami dags = .ok (.text (match b.subject.value with
        | some s => s.shown
        | none => "anonymous")) := by
      intro dags
      rw [← hmanager, ← hm.value_whoami dags]
      exact value_perform_of_passedOn hd hleads (Command.passedOn_whoami dags)
    refine ⟨hrun, hwhoami, hsubject.trans hmanager.symm, ?_⟩
    rw [hsubject, hloggedIn, hname, hdisplay, hid]
    cases hwho : b.subject.value with
    | none =>
        rw [hwho] at hshown
        exact ⟨by simp, by simp, by simp, by simp, by simp, fun dags => by simp [hshown dags]⟩
    | some s =>
        rw [hwho] at hshown
        refine ⟨by simp, ?_, by simp, by simp, by simp, fun dags => by simp [hshown dags]⟩
        rintro s' ⟨⟩
        exact ⟨rfl, rfl, rfl, hshown⟩
  · intro s hs hselected hnothing through
    have hrefuses : ∀ q : Query, through q = q.refusal s.vendor := by
      intro q
      show ((perform (.client s) q.ask).run' d).value = _
      rw [StateT.run'_eq, run_perform_of_nothing q.ask hs hselected hnothing]
      simpa using (q.refuses_unavailable s.vendor).value
    exact ⟨hrefuses .subject, hrefuses .isLoggedIn, hrefuses .subjectName,
      hrefuses .displayName, hrefuses .subjectId⟩

/-- A table of which `ada` is signed in, with an empty id, behind two gateways that have
selected, and a third gateway for whose vendor nothing is registered. -/
theorem identity_through_gateways_empty_id :
    let t : GrantTable := ⟨.allowAll, [], some (.withId "" "ada")⟩
    let inner : Service := ⟨0, 0, "acme", some 0⟩
    let outer : Service := ⟨1, 0, "front", none⟩
    let astray : Service := ⟨2, 0, "nobody", none⟩
    let d : Deployment :=
      { registries := [⟨[⟨"static", "acme", 1, .direct t.manager⟩,
          ⟨"inner", "front", 1, .client inner⟩]⟩]
        services := 3
        selections := [(0, .direct t.manager), (1, .client inner)] }
    let through (q : Query) := ((perform (.client outer) q.ask).run' d).value
    let dags : DagSource := return .ok .empty
    d.Reachable ∧ d.Leads (.client outer) [outer, inner] t.manager ∧ t.manager.AnswersItself ∧
      through .subject = some (.withId "" "ada") ∧ through .displayName = .ok "ada" ∧
      through .subjectId = .ok none ∧
      ((perform (.client outer) fun m => Command.run m dags .whoami).run' d).value =
        .ok (.text "ada") ∧
      ((perform (.client astray) Manager.subjectId).run' d).value =
        .error (.noPluginAvailable "nobody") := by
  intro t inner outer astray d through dags
  have hinner : Reachable (_ : Deployment) :=
    ((Reachable.start.register 0 (i := ⟨"static", "acme", 1, .direct t.manager⟩) trivial).newService
      0 ⟨"acme", some 0⟩).select (s := inner) (Nat.lt_succ_self 0)
  have houter : Reachable (_ : Deployment) :=
    ((hinner.register 0 (i := ⟨"inner", "front", 1, .client inner⟩) (Nat.lt_succ_self 0)).newService
      0 ⟨"front", none⟩).select (s := outer) (Nat.lt_succ_self 1)
  have hd : d.Reachable := houter.newService 0 ⟨"nobody", none⟩
  have hway : d.Leads (.client outer) [outer, inner] t.manager :=
    .client rfl (.client rfl (.direct t.manager))
  have hthrough := identity_through_gateways hd
  obtain ⟨-, -, hsubject, -, hsigned, -⟩ :=
    hthrough.1 (.client outer) [outer, inner] t.manager hway t.answersItself
  obtain ⟨-, hdisplay, hid, hshown⟩ := hsigned (.withId "" "ada") (hsubject.trans rfl)
  obtain ⟨-, -, -, -, hastray⟩ := hthrough.2 astray (Nat.lt_succ_self 2) rfl rfl
  exact ⟨hd, hway, t.answersItself, hsubject.trans rfl, hdisplay, hid, hshown dags, hastray⟩

/-- Settings can sign in a subject that is called `anonymous` and has no id. The command line
shows it as it shows that nobody is signed in. -/
theorem whoami_anonymous_signed_in :
    let who : Subject := .withoutId "anonymous"
    let settings : StaticSettings :=
      { signedIn := some "anonymous", subjects := [{ name := "anonymous" }] }
    let t : GrantTable := ⟨.allowAll, [⟨who, []⟩], some who⟩
    let s : Service := ⟨0, 0, "acme", none⟩
    let d : Deployment :=
      { registries := [⟨[⟨"static", "acme", 1, .direct t.manager⟩]⟩]
        services := 1
        selections := [(0, .direct t.manager)] }
    let through (q : Query) := ((perform (.client s) q.ask).run' d).value
    let whoami (dags : DagSource) :=
      ((perform (.client s) fun m => Command.run m dags .whoami).run' d).value
    GrantTable.ofSettings settings = .ok t ∧
      d.Reachable ∧ d.Leads (.client s) [s] t.manager ∧ t.manager.AnswersItself ∧
      through .subject = some who ∧ through .isLoggedIn = true ∧
      ∀ dags, whoami dags = .ok (.text "anonymous") ∧
        ¬(whoami dags = .ok (.text "anonymous") ↔ through .subject = none) := by
  intro who settings t s d through whoami
  have hregistered : Reachable (_ : Deployment) :=
    Reachable.start.register 0 (i := ⟨"static", "acme", 1, .direct t.manager⟩) trivial
  have hd : d.Reachable :=
    (hregistered.newService 0 ⟨"acme", none⟩).select (s := s) (Nat.lt_succ_self 0)
  have hway : d.Leads (.client s) [s] t.manager := .client rfl (.direct t.manager)
  have hsubject : through .subject = some who :=
    value_perform_of_passedOn hd hway (@Query.passedOn .subject rfl)
  have hloggedIn : through .isLoggedIn = true :=
    value_perform_of_passedOn hd hway (@Query.passedOn .isLoggedIn rfl)
  have hwhoami : ∀ dags, whoami dags = .ok (.text "anonymous") := fun dags =>
    (value_perform_of_passedOn hd hway (Command.passedOn_whoami dags)).trans
      (t.answersItself.value_whoami dags)
  refine ⟨by rfl, hd, hway, t.answersItself, hsubject, hloggedIn, fun dags => ⟨hwhoami dags, ?_⟩⟩
  intro hnobody
  rw [hsubject] at hnobody
  cases hnobody.mp (hwhoami dags)

end Deployment

end AccessGate
