/-
# Starting one gateway more than once

One gateway may be started by any number of calls. Each looks whether the gateway is set,
runs the start of the backend that it has selected, and sets the gateway if it is not set by
then. Nothing makes the calls take turns: while one of them waits, others begin and go on,
and so does the rest of the program. A `StartRace` is a moment of this, and
`StartRace.Reaches` leads from moment to moment in any order.

* `StartRace.advance_cases` : one step leaves the gateway as it is, or it is the success of
  one call;
* `StartRace.complete_reaches`, `StartRace.race_reaches` : a launch that goes on alone comes to
  its end, and a gateway that is started twice at once is a case of this;
* `StartRace.Reaches.chosen` : the service and the instance of a launch were chosen when its
  call began;
* `StartRace.set_once` : what follows for the calls and for who asks for the client.
-/
import AccessGate.Proofs.Launch

namespace AccessGate

/-! ## Moments -/

/-- What becomes of the starts of backends that calls run. -/
inductive HookEvent (ι : Type) where
  /-- A call begins to run a backend's start. -/
  | began (call : ι)
  /-- The start that a call runs has come to its end. -/
  | ended (call : ι) (outcome : Except Fault Unit)

/-- The backend's start that a call runs if it begins now: none if the gateway is set or
there is nothing for the vendor. -/
def StartCall.hook? (c : StartCall) (g : Gateway) (d : Deployment) :
    Option (Run (Except Fault Unit)) :=
  if g.service = none then (c.choice? d).map (c.hook d) else none

/-- A moment at which calls that start one gateway stand somewhere. -/
structure StartRace (ι : Type) where
  gateway : Gateway := {}
  deployment : Deployment
  /-- Where the launch of each call stands that has begun. -/
  launches : ι → Option Launch := fun _ => none
  /-- What has become of the backends' starts, in order. -/
  history : List (HookEvent ι) := []

namespace StartRace

variable {ι : Type}

/-- Before any call has begun. -/
def opening (d : Deployment) : StartRace ι :=
  { deployment := d }

/-- Whether a call has returned with a result. -/
def Returned (q : StartRace ι) (k : ι) (result : Except StartupFault Service) : Prop :=
  q.launches k = some (.finished result)

/-- A call returns with one result. -/
theorem Returned.unique {q : StartRace ι} {k : ι} {r r' : Except StartupFault Service}
    (h : q.Returned k r) (h' : q.Returned k r') : r = r' := by
  rw [Returned, h] at h'
  cases h'
  rfl

/-- The end of a backend's start, if it comes before the next wait. -/
def endings (k : ι) (start : Run (Except Fault Unit)) : List (HookEvent ι) :=
  start.atOnce?.toList.map (.ended k)

/-! ## What can happen -/

variable [DecidableEq ι] (calls : ι → StartCall)

/-- The moment after a launch has come somewhere. -/
def moved (q : StartRace ι) (k : ι) (events : List (HookEvent ι))
    (a : (Launch × Gateway) × Deployment) : StartRace ι where
  gateway := a.1.2
  deployment := a.2
  launches := Function.update q.launches k (some a.1.1)
  history := q.history ++ events

omit [DecidableEq ι] in
/-- What is told of the backend's start when a call begins. -/
def beginnings (q : StartRace ι) (k : ι) : List (HookEvent ι) :=
  match (calls k).hook? q.gateway q.deployment with
  | none => []
  | some start => .began k :: endings k start

/-- Begin a call. -/
def begin (q : StartRace ι) (k : ι) : Run (StartRace ι) :=
  q.moved k (q.beginnings calls k) <$>
    ((Launch.begin (calls k).registry (calls k).settings).run q.gateway).run q.deployment

/-- Take a launch past the wait it stands at. -/
def resume (q : StartRace ι) (k : ι) (service : Service) (duration : Nat)
    (rest : Run (Except Fault Unit)) : Run (StartRace ι) :=
  q.moved k (endings k rest) <$>
    ((Launch.resume (.waiting service duration rest)).run q.gateway).run q.deployment

/-- What can happen next, with the steps it takes: a call begins, a launch that waits goes on,
or something happens elsewhere in the program. -/
inductive Advances (q : StartRace ι) : List Step → StartRace ι → Prop where
  | begin (k : ι) : q.launches k = none →
      Advances q (q.begin calls k).steps (q.begin calls k).value
  | resume (k : ι) {service : Service} {duration : Nat} {rest : Run (Except Fault Unit)} :
      q.launches k = some (.waiting service duration rest) →
        Advances q (q.resume k service duration rest).steps
          (q.resume k service duration rest).value
  | elsewhere {steps : List Step} {d : Deployment} :
      q.deployment.Onward d → Advances q steps { q with deployment := d }

/-- What can come of a moment, with all the steps on the way. -/
inductive Reaches (q : StartRace ι) : List Step → StartRace ι → Prop where
  | here : Reaches q [] q
  | next {steps more : List Step} {q' q'' : StartRace ι} :
      Reaches q steps q' → Advances calls q' more q'' → Reaches q (steps ++ more) q''

variable {calls} {q q' q'' : StartRace ι} {j k : ι} {events : List (HookEvent ι)}
  {a : (Launch × Gateway) × Deployment} {steps more : List Step} {service : Service}
  {duration : Nat} {rest : Run (Except Fault Unit)} {d : Deployment}

namespace Reaches

theorem single (h : Advances calls q steps q') : Reaches calls q steps q' :=
  .next .here h

theorem trans (h : Reaches calls q steps q') (h' : Reaches calls q' more q'') :
    Reaches calls q (steps ++ more) q'' := by
  induction h' with
  | here => rwa [List.append_nil]
  | next _ hnext ih =>
      rw [← List.append_assoc]
      exact .next ih hnext

end Reaches

/-! ### What one step does -/

@[simp]
theorem launches_moved_self : (q.moved k events a).launches k = some a.1.1 := by
  simp [moved]

theorem launches_moved_of_ne (h : j ≠ k) :
    (q.moved k events a).launches j = q.launches j := by
  simp [moved, h]

/-- Who has returned when a launch comes somewhere had returned before, or the launch is the
call's own and has come to its end. -/
theorem returned_of_moved {result : Except StartupFault Service}
    (h : (q.moved k events a).Returned j result) :
    a.1.1 = .finished result ∨ q.Returned j result := by
  by_cases hjk : j = k
  · rw [Returned, hjk, launches_moved_self] at h
    exact .inl (Option.some.inj h)
  · rw [Returned, launches_moved_of_ne hjk] at h
    exact .inr h

/-- What beginning does. -/
theorem begin_cases (hd : q.deployment.Sound) (k : ι) :
    ∃ a, (q.begin calls k).value = q.moved k (q.beginnings calls k) a ∧
      Launch.Begins (calls k) q.gateway q.deployment a.1.1 a.1.2 a.2 :=
  ⟨_, rfl, Launch.begin_cases hd (calls k) q.gateway⟩

/-- What going on does. The deployment stays as it is. -/
theorem resume_cases (q : StartRace ι) (k : ι) (service : Service) (duration : Nat)
    (rest : Run (Except Fault Unit)) :
    ∃ a, (q.resume k service duration rest).value = q.moved k (endings k rest) a ∧
      Launch.Goes service rest q.gateway a.1.1 a.1.2 ∧ a.2 = q.deployment :=
  ⟨_, rfl, Launch.proceed_goes service rest q.gateway q.deployment⟩

/-- What can happen leads to deployments that a program can come to. -/
theorem reachable_advance (hd : q.deployment.Reachable) (h : Advances calls q steps q') :
    q'.deployment.Reachable := by
  cases h with
  | begin k _ =>
      obtain ⟨a, ha, hbegins⟩ := begin_cases hd.sound k
      rw [ha]
      exact hbegins.reachable hd
  | @resume k service duration rest _ =>
      obtain ⟨a, ha, -, hdeployment⟩ := resume_cases q k service duration rest
      rw [ha]
      show a.2.Reachable
      rwa [hdeployment]
  | elsewhere honward => exact honward.reachable hd

/-- What is selected stays selected. -/
theorem persists_advance (hd : q.deployment.Sound) (h : Advances calls q steps q') :
    q.deployment.Persists q'.deployment := by
  cases h with
  | begin k _ =>
      obtain ⟨a, ha, hbegins⟩ := begin_cases hd k
      rw [ha]
      exact hbegins.persists
  | @resume k service duration rest _ =>
      obtain ⟨a, ha, -, hdeployment⟩ := resume_cases q k service duration rest
      rw [ha]
      show q.deployment.Persists a.2
      rw [hdeployment]
      exact .refl _
  | elsewhere honward => exact honward.persists

/-- A call that has returned does nothing more. -/
theorem returned_advance {result : Except StartupFault Service} (hj : q.Returned j result)
    (h : Advances calls q steps q') : q'.Returned j result := by
  have hother : ∀ k, q.launches k ≠ some (.finished result) → j ≠ k := by
    rintro k hk rfl
    exact hk hj
  cases h with
  | begin k hk =>
      have hjk : j ≠ k := hother k (by simp [hk])
      exact (launches_moved_of_ne hjk).trans hj
  | resume k hk =>
      have hjk : j ≠ k := hother k (by simp [hk])
      exact (launches_moved_of_ne hjk).trans hj
  | elsewhere _ => exact hj

/-- A launch that comes somewhere sets the gateway if it succeeds, and leaves it as it is
otherwise. -/
theorem moved_cases (h : (a.1.2 = q.gateway ∧ ∀ s, a.1.1 ≠ .finished (.ok s)) ∨
      (q.gateway.service = none ∧ ∃ s, a.1.2 = ⟨some s⟩ ∧ a.1.1 = .finished (.ok s))) :
    ((q.moved k events a).gateway = q.gateway ∧
        ∀ j s, (q.moved k events a).Returned j (.ok s) → q.Returned j (.ok s)) ∨
      (q.gateway.service = none ∧ ∃ i s, (q.moved k events a).gateway = ⟨some s⟩ ∧
        (q.moved k events a).launches =
          Function.update q.launches i (some (.finished (.ok s)))) := by
  rcases h with ⟨hsame, hnot⟩ | ⟨hunset, s, hset, hsucceeded⟩
  · exact .inl ⟨hsame, fun j s hj => (returned_of_moved hj).resolve_left (hnot s)⟩
  · exact .inr ⟨hunset, k, s, hset, by rw [moved, hsucceeded]⟩

/-- **One step leaves the gateway as it is, and no call succeeds; or one call succeeds and
sets the gateway**, which is not set. -/
theorem advance_cases (hd : q.deployment.Sound) (h : Advances calls q steps q') :
    (q'.gateway = q.gateway ∧ ∀ j s, q'.Returned j (.ok s) → q.Returned j (.ok s)) ∨
      (q.gateway.service = none ∧ ∃ k s, q'.gateway = ⟨some s⟩ ∧
        q'.launches = Function.update q.launches k (some (.finished (.ok s)))) := by
  cases h with
  | begin k _ =>
      obtain ⟨a, ha, hbegins⟩ := begin_cases hd k
      rw [ha]
      exact moved_cases hbegins.gateway
  | @resume k service duration rest _ =>
      obtain ⟨a, ha, hgoes, -⟩ := resume_cases q k service duration rest
      rw [ha]
      exact moved_cases hgoes.gateway
  | elsewhere _ => exact .inl ⟨rfl, fun _ _ hj => hj⟩

/-- A gateway that is set stays as it is. -/
theorem gateway_advance (hd : q.deployment.Sound) (hset : q.gateway.service = some service)
    (h : Advances calls q steps q') : q'.gateway.service = some service := by
  rcases advance_cases hd h with ⟨hsame, -⟩ | ⟨hunset, -⟩
  · rwa [hsame]
  · rw [hset] at hunset
    cases hunset

/-! ### Who sets the gateway -/

/-- The gateway is set by the call that succeeds, to what this call returns, and no two calls
succeed. -/
structure Decided (q : StartRace ι) : Prop where
  set : ∀ k s, q.Returned k (.ok s) → q.gateway.service = some s
  byCall : ∀ s, q.gateway.service = some s → ∃ k, q.Returned k (.ok s)
  once : ∀ j k s s', q.Returned j (.ok s) → q.Returned k (.ok s') → j = k

/-- **Whatever happens next, at most one call succeeds**, and the gateway is what it
returned. -/
theorem Decided.advance (hq : q.Decided) (hd : q.deployment.Sound)
    (h : Advances calls q steps q') : q'.Decided := by
  rcases advance_cases hd h with ⟨hsame, hbefore⟩ | ⟨hunset, k, s, hset, hlaunches⟩
  · refine ⟨?_, ?_, ?_⟩
    · intro j s hj
      rw [hsame]
      exact hq.set j s (hbefore j s hj)
    · intro s hs
      rw [hsame] at hs
      obtain ⟨j, hj⟩ := hq.byCall s hs
      exact ⟨j, returned_advance hj h⟩
    · intro i j s s' hi hj
      exact hq.once i j s s' (hbefore i s hi) (hbefore j s' hj)
  · -- the gateway was not set, so nobody had succeeded
    have honly : ∀ j s', q'.Returned j (.ok s') → j = k ∧ s' = s := by
      intro j s' hj
      rw [Returned, hlaunches] at hj
      by_cases hjk : j = k
      · rw [hjk, Function.update_self] at hj
        cases hj
        exact ⟨hjk, rfl⟩
      · rw [Function.update_of_ne hjk] at hj
        rw [hq.set j s' hj] at hunset
        cases hunset
    refine ⟨?_, ?_, ?_⟩
    · intro j s' hj
      rw [hset, (honly j s' hj).2]
    · intro s' hs'
      rw [hset] at hs'
      cases hs'
      exact ⟨k, by rw [Returned, hlaunches, Function.update_self]⟩
    · intro i j s₁ s₂ hi hj
      rw [(honly i s₁ hi).1, (honly j s₂ hj).1]

/-! ### From the beginning -/

omit [DecidableEq ι] in
/-- Before any call has begun nothing is decided. -/
theorem Decided.opening (d : Deployment) : (opening d : StartRace ι).Decided := by
  refine ⟨?_, ?_, ?_⟩
  · intro k s hk
    cases hk
  · intro s hs
    cases hs
  · intro j k s s' hj
    cases hj

/-- Whether a call has begun on the way from one moment to another, on a gateway that was not
set, and its service has selected an instance then. -/
def Chose (calls : ι → StartCall) (p : StartRace ι) (k : ι) (s : Service) (i : Instance)
    (q : StartRace ι) : Prop :=
  ∃ before q₀ after, Reaches calls p before q₀ ∧ q₀.launches k = none ∧
    q₀.gateway.service = none ∧ s = (calls k).service q₀.deployment ∧
    (calls k).choice? q₀.deployment = some i ∧ Reaches calls (q₀.begin calls k).value after q

/-- What was chosen on the way was chosen whatever happens next. -/
theorem Chose.next {p : StartRace ι} {s : Service} {i : Instance} (h : Chose calls p k s i q)
    (hnext : Advances calls q steps q') : Chose calls p k s i q' := by
  obtain ⟨before, q₀, after, hq₀, hfresh, hunset, hservice, hchoice, hafter⟩ := h
  exact ⟨before, q₀, _, hq₀, hfresh, hunset, hservice, hchoice, .next hafter hnext⟩

namespace Reaches

/-- All deployments on the way are ones that a program can come to. -/
theorem reachable (h : Reaches calls q steps q') (hd : q.deployment.Reachable) :
    q'.deployment.Reachable := by
  induction h with
  | here => exact hd
  | next _ hnext ih => exact reachable_advance ih hnext

/-- What is selected stays selected for ever. -/
theorem persists (h : Reaches calls q steps q') (hd : q.deployment.Reachable) :
    q.deployment.Persists q'.deployment := by
  induction h with
  | here => exact .refl _
  | next hbefore hnext ih => exact ih.trans (persists_advance (hbefore.reachable hd).sound hnext)

/-- A gateway that is set stays as it is for ever. -/
theorem gateway (h : Reaches calls q steps q') (hd : q.deployment.Reachable)
    (hset : q.gateway.service = some service) : q'.gateway.service = some service := by
  induction h with
  | here => exact hset
  | next hbefore hnext ih => exact gateway_advance (hbefore.reachable hd).sound ih hnext

/-- Every moment is decided by the call that has succeeded. -/
theorem decided (h : Reaches calls (opening d) steps q) (hd : d.Reachable) : q.Decided := by
  induction h with
  | here => exact .opening d
  | next hbefore hnext ih => exact ih.advance (hbefore.reachable hd).sound hnext

/-- **The service and the instance of a launch were chosen when its call began**, and the
service has that instance selected. -/
theorem chosen (h : Reaches calls (opening d) steps q) (hd : d.Reachable) {launch : Launch}
    (hk : q.launches k = some launch) {s : Service} (hs : launch.service? = some s) :
    ∃ i, Chose calls (opening d) k s i q ∧ q.deployment.selected? s = some i.api := by
  induction h generalizing launch with
  | here => cases hk
  | @next steps more q q' hbefore hnext ih =>
      have hsound := (hbefore.reachable hd).sound
      have hkeep : (∃ i, Chose calls (opening d) k s i q ∧ q.deployment.selected? s = some i.api) →
          ∃ i, Chose calls (opening d) k s i q' ∧ q'.deployment.selected? s = some i.api := by
        rintro ⟨i, hchose, hselected⟩
        exact ⟨i, hchose.next hnext, (persists_advance hsound hnext).selected s i.api hselected⟩
      cases hnext with
      | begin j hj =>
          by_cases hkj : k = j
          · -- the call begins now, and this is where it chooses
            subst hkj
            obtain ⟨a, ha, hbegins⟩ := begin_cases hsound k
            rw [ha, launches_moved_self] at hk
            cases hk
            obtain ⟨hunset, hservice, i, hchoice, hselected⟩ := hbegins.selected hsound hs
            refine ⟨i, ⟨steps, q, [], hbefore, hj, hunset, hservice, hchoice, .here⟩, ?_⟩
            rw [ha]
            exact hselected
          · exact hkeep (ih ((launches_moved_of_ne hkj).symm.trans hk) hs)
      | @resume j service duration rest hj =>
          by_cases hkj : k = j
          · subst hkj
            obtain ⟨a, ha, hgoes, -⟩ := resume_cases q k service duration rest
            rw [ha, launches_moved_self] at hk
            cases hk
            exact hkeep (ih hj (hgoes.eq_service hs ▸ rfl))
          · exact hkeep (ih ((launches_moved_of_ne hkj).symm.trans hk) hs)
      | elsewhere _ => exact hkeep (ih hk hs)

end Reaches

/-! ## Launches that go on alone -/

variable (calls) in
/-- **A launch that goes on alone comes to its end**, which is what it comes to in one go. -/
theorem complete_reaches {launch : Launch} (hk : q.launches k = some launch) :
    let a := ((launch.complete.run q.gateway).run q.deployment).value
    ∃ steps q', Reaches calls q steps q' ∧ q'.Returned k a.1.1 ∧ q'.gateway = a.1.2 ∧
      q'.deployment = a.2 ∧ ∀ j, j ≠ k → q'.launches j = q.launches j := by
  -- from wait to wait there is less of the backend's start left
  induction hn : launch.waits using Nat.strongRecOn generalizing q launch with
  | ind n ih =>
      cases launch with
      | finished result => exact ⟨[], q, .here, hk, rfl, rfl, fun _ _ => rfl⟩
      | waiting service duration rest =>
          have hnext : Advances calls q _ _ := .resume k hk
          obtain ⟨hgoes, -⟩ := Launch.proceed_goes service rest q.gateway q.deployment
          obtain ⟨steps, q', hreaches, hreturned, hgateway, hdeployment, hothers⟩ :=
            ih _ (hn ▸ hgoes.waits_lt) (q := (q.resume k service duration rest).value)
              launches_moved_self rfl
          have hvalue := (Launch.complete_waiting service duration rest q.gateway q.deployment).value
          refine ⟨_, q', (Reaches.single hnext).trans hreaches, ?_, ?_, ?_, ?_⟩
          · rw [← hvalue]
            exact hreturned
          · rw [← hvalue]
            exact hgateway
          · rw [← hvalue]
            exact hdeployment
          · intro j hj
            exact (hothers j hj).trans (launches_moved_of_ne hj)

/-! ### One start, or two at once -/

section RaceWithin

variable {s s' : Service} {t t' : Nat} {rest rest' : Run (Except Fault Unit)}

/-- Of two launches that wait, the first one goes on if its wait is over first. -/
theorem value_raceWithin_of_lt (ht : t < t') (waits : Nat) (g : Gateway) (d : Deployment) :
    let a := (((Launch.resume (.waiting s t rest)).run g).run d).value
    (((Gateway.raceWithin (waits + 1) (.waiting s t rest) (.waiting s' t' rest')).run g).run
        d).value =
      (((Gateway.raceWithin waits a.1.1 (.waiting s' (t' - t) rest')).run a.1.2).run a.2).value := by
  rw [Gateway.raceWithin, if_pos ht]
  rfl

/-- Otherwise the second one does. -/
theorem value_raceWithin_of_not_lt (ht : ¬t < t') (waits : Nat) (g : Gateway) (d : Deployment) :
    let b := (((Launch.resume (.waiting s' t' rest')).run g).run d).value
    (((Gateway.raceWithin (waits + 1) (.waiting s t rest) (.waiting s' t' rest')).run g).run
        d).value =
      (((Gateway.raceWithin waits (.waiting s (t - t') rest) b.1.1).run b.1.2).run b.2).value := by
  rw [Gateway.raceWithin, if_neg ht]
  rfl

end RaceWithin

variable (calls) in
/-- **A gateway that is started once** is a call that begins and goes on alone. -/
theorem start_reaches (hk : q.launches k = none) :
    let a := (((Gateway.start (calls k).registry (calls k).settings).run q.gateway).run
      q.deployment).value
    ∃ steps q', Reaches calls q steps q' ∧ q'.Returned k a.1.1 ∧ q'.gateway = a.1.2 ∧
      q'.deployment = a.2 := by
  have hbegin := Reaches.single (.begin k hk : Advances calls q _ _)
  obtain ⟨steps, q', hreaches, hreturned, hgateway, hdeployment, -⟩ :=
    complete_reaches calls (q := (q.begin calls k).value) (launches_moved_self (k := k))
  exact ⟨_, q', hbegin.trans hreaches, hreturned, hgateway, hdeployment⟩

/-- Whether the launch of a call stands where a launch does, however long it waits there. -/
def StandsAt (q : StartRace ι) (k : ι) : Launch → Prop
  | .waiting service _ rest => ∃ duration, q.launches k = some (.waiting service duration rest)
  | .finished result => q.Returned k result

omit [DecidableEq ι] in
theorem standsAt_of_launches {launch : Launch} (h : q.launches k = some launch) :
    q.StandsAt k launch := by
  cases launch with
  | waiting service duration rest => exact ⟨duration, h⟩
  | finished result => exact h

omit [DecidableEq ι] in
/-- Where a launch stands only its own steps change. -/
theorem StandsAt.of_launches_eq {launch : Launch} (h : q.StandsAt k launch)
    (hsame : q'.launches k = q.launches k) : q'.StandsAt k launch := by
  cases launch with
  | waiting service duration rest =>
      obtain ⟨duration, hk⟩ := h
      exact ⟨duration, hsame.trans hk⟩
  | finished result => exact hsame.trans h

variable (calls) in
/-- What a launch comes to when it goes on alone does not depend on how long it waits. -/
theorem StandsAt.complete_reaches {launch : Launch} (h : q.StandsAt k launch) :
    let a := ((launch.complete.run q.gateway).run q.deployment).value
    ∃ steps q', Reaches calls q steps q' ∧ q'.Returned k a.1.1 ∧ q'.gateway = a.1.2 ∧
      q'.deployment = a.2 ∧ ∀ j, j ≠ k → q'.launches j = q.launches j := by
  cases launch with
  | waiting service duration rest =>
      obtain ⟨duration', hk⟩ := h
      have hcomplete := StartRace.complete_reaches calls hk
      exact hcomplete
  | finished result => exact StartRace.complete_reaches calls h

variable (calls) in
/-- Two launches of different calls come to their ends one after the other. -/
theorem complete_both_reaches {a b : Launch} (hjk : j ≠ k) (ha : q.StandsAt j a)
    (hb : q.StandsAt k b) :
    let r := (((do return (← a.complete, ← b.complete) :
        Starting (Except StartupFault Service × Except StartupFault Service)).run q.gateway).run
      q.deployment).value
    ∃ steps q', Reaches calls q steps q' ∧ q'.Returned j r.1.1.1 ∧ q'.Returned k r.1.1.2 ∧
      q'.gateway = r.1.2 ∧ q'.deployment = r.2 := by
  obtain ⟨steps, q₁, hfirst, hj, hgateway, hdeployment, hothers⟩ := ha.complete_reaches calls
  obtain ⟨more, q₂, hsecond, hk, hgateway', hdeployment', hothers'⟩ :=
    (hb.of_launches_eq (hothers k hjk.symm)).complete_reaches calls
  rw [hgateway, hdeployment] at hk hgateway' hdeployment'
  exact ⟨_, q₂, hfirst.trans hsecond, (hothers' j hjk).trans hj, hk, hgateway', hdeployment'⟩

variable (calls) in
/-- Two launches of different calls come to their ends, the one whose wait is over first going
on first. -/
theorem raceWithin_reaches (waits : Nat) {a b : Launch} (hjk : j ≠ k) (ha : q.StandsAt j a)
    (hb : q.StandsAt k b) :
    let r := (((Gateway.raceWithin waits a b).run q.gateway).run q.deployment).value
    ∃ steps q', Reaches calls q steps q' ∧ q'.Returned j r.1.1.1 ∧ q'.Returned k r.1.1.2 ∧
      q'.gateway = r.1.2 ∧ q'.deployment = r.2 := by
  induction waits generalizing q a b with
  | zero => exact complete_both_reaches calls hjk ha hb
  | succ waits ih =>
      cases a with
      | finished result => exact complete_both_reaches calls hjk ha hb
      | waiting s t rest =>
          cases b with
          | finished result => exact complete_both_reaches calls hjk ha hb
          | waiting s' t' rest' =>
              by_cases ht : t < t'
              · obtain ⟨duration, hj⟩ := ha
                have hb' : (q.resume j s duration rest).value.StandsAt k
                    (.waiting s' (t' - t) rest') :=
                  hb.of_launches_eq (launches_moved_of_ne hjk.symm)
                obtain ⟨steps, q', hreaches, hq'⟩ :=
                  ih (standsAt_of_launches launches_moved_self) hb'
                rw [value_raceWithin_of_lt ht]
                exact ⟨_, q', (Reaches.single (.resume j hj)).trans hreaches, hq'⟩
              · obtain ⟨duration, hk⟩ := hb
                have ha' : (q.resume k s' duration rest').value.StandsAt j
                    (.waiting s (t - t') rest) :=
                  ha.of_launches_eq (launches_moved_of_ne hjk)
                obtain ⟨steps, q', hreaches, hq'⟩ :=
                  ih ha' (standsAt_of_launches launches_moved_self)
                rw [value_raceWithin_of_not_lt ht]
                exact ⟨_, q', (Reaches.single (.resume k hk)).trans hreaches, hq'⟩

variable (calls) in
/-- **A gateway that is started twice at once** is two calls, the first of which begins a
moment before the second. -/
theorem race_reaches (hjk : j ≠ k) (hj : q.launches j = none) (hk : q.launches k = none)
    (hregistry : (calls k).registry = (calls j).registry) :
    let r := (((Gateway.race (calls j).registry (calls j).settings (calls k).settings).run
      q.gateway).run q.deployment).value
    ∃ steps q', Reaches calls q steps q' ∧ q'.Returned j r.1.1.1 ∧ q'.Returned k r.1.1.2 ∧
      q'.gateway = r.1.2 ∧ q'.deployment = r.2 := by
  have hfirst := Reaches.single (.begin j hj : Advances calls q _ _)
  have hk' : (q.begin calls j).value.launches k = none :=
    (launches_moved_of_ne hjk.symm).trans hk
  have hsecond := hfirst.trans (.single (.begin k hk'))
  have ha : ((q.begin calls j).value.begin calls k).value.StandsAt j _ :=
    (standsAt_of_launches launches_moved_self).of_launches_eq (launches_moved_of_ne hjk)
  have hb : ((q.begin calls j).value.begin calls k).value.StandsAt k _ :=
    standsAt_of_launches launches_moved_self
  have hrace : Gateway.race (calls j).registry (calls j).settings (calls k).settings = (do
      let a ← Launch.begin (calls j).registry (calls j).settings
      let b ← Launch.begin (calls k).registry (calls k).settings
      Gateway.raceWithin (a.waits + b.waits) a b) := by
    rw [Gateway.race, hregistry]
  rw [hrace]
  intro r
  obtain ⟨steps, q', hreaches, hq'⟩ : ∃ steps q',
      Reaches calls ((q.begin calls j).value.begin calls k).value steps q' ∧
        q'.Returned j r.1.1.1 ∧ q'.Returned k r.1.1.2 ∧ q'.gateway = r.1.2 ∧
          q'.deployment = r.2 :=
    raceWithin_reaches calls _ hjk ha hb
  exact ⟨_, q', hsecond.trans hreaches, hq'⟩

variable (calls) in
/-- A launch that waits can succeed as long as the gateway is not set, if its backend's start
does. -/
theorem waiting_can_succeed (hk : q.launches k = some (.waiting service duration rest))
    (hunset : q.gateway.service = none) (hok : rest.value = .ok ()) :
    ∃ steps q', Reaches calls q steps q' ∧ q'.Returned k (.ok service) := by
  obtain ⟨steps, q', hreaches, hreturned, -⟩ := complete_reaches calls hk
  rw [Launch.value_complete_of_unset hunset hok] at hreturned
  exact ⟨steps, q', hreaches, hreturned⟩

/-- So can a call that has not begun, if there is a backend for it. -/
theorem fresh_can_succeed (hd : q.deployment.Sound) (hk : q.launches k = none)
    (hunset : q.gateway.service = none) {i : Instance}
    (hchoice : (calls k).choice? q.deployment = some i)
    (hok : ((calls k).hook q.deployment i).value = .ok ()) :
    ∃ steps q', Reaches calls q steps q' ∧
      q'.Returned k (.ok ((calls k).service q.deployment)) := by
  have hbegin := Reaches.single (.begin k hk : Advances calls q _ _)
  obtain ⟨⟨⟨launch, g⟩, d⟩, ha, hbegins⟩ := begin_cases hd k
  cases hbegins with
  | refused hset =>
      rw [hunset] at hset
      cases hset
  | unserved _ hnone =>
      rw [hchoice] at hnone
      cases hnone
  | @launched i' _ _ _ hchoice' hgoes =>
      rw [hchoice] at hchoice'
      cases hchoice'
      cases hgoes with
      | waits duration _ hvalue _ =>
          -- what is left of the start comes to what the whole start comes to
          obtain ⟨steps, q', hreaches, hreturned⟩ := waiting_can_succeed calls
            (q := (q.begin calls k).value) (ha ▸ launches_moved_self) (ha ▸ hunset)
            (hvalue.trans hok)
          exact ⟨_, q', hbegin.trans hreaches, hreturned⟩
      | fails hfault =>
          rw [Run.value_of_atOnce? hfault] at hok
          cases hok
      | late _ hset =>
          rw [hunset] at hset
          cases hset
      | succeeds _ _ => exact ⟨_, _, hbegin, ha ▸ launches_moved_self⟩

/-- A call that begins when the gateway is set is refused: nothing happens but for a line in
the log. -/
theorem begin_of_service (hset : q.gateway.service = some service) (k : ι) :
    q.begin calls k = ⟨[.log (.gatewayStarting (calls k).settings.vendor)],
      q.moved k [] ((.finished (.error .alreadyStarted), q.gateway), q.deployment)⟩ := by
  have hnothing : q.beginnings calls k = [] := by
    rw [beginnings, StartCall.hook?, hset]
    rfl
  rw [begin, hnothing, Launch.run_begin_of_service hset]
  rfl

/-! ## What a gateway that is started more than once comes to -/

/-- **A gateway is set once.** However many calls start it, one after another or while others
wait, at most one of them succeeds. Who asks for the client gets none as long as no call has
succeeded, and from then on the client over the service of the call that has, with the
instance that this service selected when the call began. A step in which no call succeeds
leaves the gateway as it is, in particular one in which a call fails; and as long as none has
succeeded each call can, whether it waits or has not begun, if there is a backend for it that
starts. A call that begins after a success fails, and nothing is selected and no backend
started for it. -/
theorem set_once (hd : d.Reachable) (h : Reaches calls (opening d) steps q) :
    (∀ j k s s', q.Returned j (.ok s) → q.Returned k (.ok s') → j = k) ∧
    (q.gateway.client? = none ↔ ∀ k s, ¬q.Returned k (.ok s)) ∧
    (∀ k s, q.Returned k (.ok s) → ∃ i, Chose calls (opening d) k s i q ∧
      ∀ more q', Reaches calls q more q' →
        q'.gateway.client? = some (.client s) ∧ q'.deployment.selected? s = some i.api) ∧
    (∀ more q', Advances calls q more q' →
      (∀ k s, q'.Returned k (.ok s) → q.Returned k (.ok s)) → q'.gateway = q.gateway) ∧
    (∀ more q' k f, Advances calls q more q' → ¬q.Returned k (.error f) →
      q'.Returned k (.error f) → q'.gateway = q.gateway) ∧
    ((∀ k s, ¬q.Returned k (.ok s)) → q.gateway = {} ∧
      (∀ k i, q.launches k = none → (calls k).choice? q.deployment = some i →
        ((calls k).hook q.deployment i).value = .ok () →
          ∃ more q', Reaches calls q more q' ∧
            q'.Returned k (.ok ((calls k).service q.deployment))) ∧
      ∀ k service duration rest, q.launches k = some (.waiting service duration rest) →
        rest.value = .ok () →
          ∃ more q', Reaches calls q more q' ∧ q'.Returned k (.ok service)) ∧
    ((∃ j s, q.Returned j (.ok s)) → ∀ k, q.launches k = none →
      q.begin calls k = ⟨[.log (.gatewayStarting (calls k).settings.vendor)],
        q.moved k [] ((.finished (.error .alreadyStarted), q.gateway), q.deployment)⟩) := by
  have hdecided := h.decided hd
  have hreachable : q.deployment.Reachable := h.reachable hd
  have hunset : (∀ k s, ¬q.Returned k (.ok s)) → q.gateway.service = none := by
    intro hnobody
    cases hservice : q.gateway.service with
    | none => rfl
    | some s =>
        obtain ⟨k, hk⟩ := hdecided.byCall s hservice
        exact absurd hk (hnobody k s)
  refine ⟨hdecided.once, ?_, ?_, ?_, ?_, ?_, ?_⟩
  · refine ⟨?_, ?_⟩
    · intro hnone k s hk
      rw [Gateway.client?, hdecided.set k s hk] at hnone
      cases hnone
    · intro hnobody
      rw [Gateway.client?, hunset hnobody]
      rfl
  · intro k s hk
    obtain ⟨i, hchose, hselected⟩ := h.chosen hd hk rfl
    refine ⟨i, hchose, ?_⟩
    intro more q' hmore
    refine ⟨?_, (hmore.persists hreachable).selected s i.api hselected⟩
    rw [Gateway.client?, hmore.gateway hreachable (hdecided.set k s hk)]
    rfl
  · intro more q' hnext hnobody
    rcases advance_cases hreachable.sound hnext with ⟨hsame, -⟩ | ⟨hservice, k, s, hset, hlaunches⟩
    · exact hsame
    · -- the call that succeeds now had succeeded before, so the gateway was set
      have hk : q'.Returned k (.ok s) := by
        rw [Returned, hlaunches, Function.update_self]
      rw [hdecided.set k s (hnobody k s hk)] at hservice
      cases hservice
  · intro more q' k f hnext hbefore hk
    rcases advance_cases hreachable.sound hnext with ⟨hsame, -⟩ | ⟨-, j, s, -, hlaunches⟩
    · exact hsame
    · -- the call that fails is not the one that succeeds, and no other call goes on
      rw [Returned, hlaunches] at hk
      by_cases hkj : k = j
      · rw [hkj, Function.update_self] at hk
        cases hk
      · rw [Function.update_of_ne hkj] at hk
        exact absurd hk hbefore
  · intro hnobody
    refine ⟨?_, ?_, ?_⟩
    · rw [← hunset hnobody]
    · intro k i hk hchoice hok
      exact fresh_can_succeed hreachable.sound hk (hunset hnobody) hchoice hok
    · intro k service duration rest hk hok
      exact waiting_can_succeed calls hk (hunset hnobody) hok
  · rintro ⟨j, s, hj⟩ k -
    exact begin_of_service (hdecided.set j s hj) k

/-- Four calls: the backend of the first fails while the second waits, the third finds none;
then the second succeeds, and the last comes too late. -/
theorem set_once_after_failures :
    let failing : Probe :=
      { number := 0, name := "failing", startDelay := 5, startFault := some "down" }
    let sound : Probe := { number := 1, name := "sound", startDelay := 10 }
    let d : Deployment :=
      { registries := [⟨[⟨"failing", "acme", 1, .direct failing.manager⟩,
          ⟨"sound", "front", 1, .direct sound.manager⟩]⟩] }
    let vendors : Fin 4 → String := fun k =>
      if k = 0 then "acme" else if k = 2 then "nobody" else "front"
    let calls : Fin 4 → StartCall := fun k => ⟨0, ⟨vendors k, none⟩⟩
    let service : Service := ⟨1, 0, "front", none⟩
    ∃ steps more q q', d.Reachable ∧ Reaches calls (opening d) steps q ∧
      q.Returned 0 (.error (.fault (.internal "down"))) ∧
      q.Returned 2 (.error (.fault (.noPluginAvailable "nobody"))) ∧
      q.gateway.client? = none ∧ Advances calls q more q' ∧ q'.Returned 1 (.ok service) ∧
      q'.gateway.client? = some (.client service) ∧
      q'.begin calls 3 = ⟨[.log (.gatewayStarting "front")],
        q'.moved 3 [] ((.finished (.error .alreadyStarted), q'.gateway), q'.deployment)⟩ := by
  intro failing sound d vendors calls service
  have hd : d.Reachable :=
    (Deployment.Reachable.start.register 0
      (i := ⟨"failing", "acme", 1, .direct failing.manager⟩) trivial).register 0
      (i := ⟨"sound", "front", 1, .direct sound.manager⟩) trivial
  -- the moments of the run, each of them what a call makes of the one before
  let first : Service := ⟨0, 0, "acme", none⟩
  let d₁ : Deployment := { d with services := 1, selections := [(0, .direct failing.manager)] }
  let d₂ : Deployment :=
    { d₁ with services := 2, selections := d₁.selections ++ [(1, .direct sound.manager)] }
  let q₁ : StartRace (Fin 4) := (opening d).moved 0 [.began 0]
    ((.waiting first 5 ⟨[], .error (.internal "down")⟩, {}), d₁)
  let q₂ := q₁.moved 1 [.began 1] ((.waiting service 10 ⟨[], .ok ()⟩, {}), d₂)
  let q₃ := q₂.moved 0 [.ended 0 (.error (.internal "down"))]
    ((.finished (.error (.fault (.internal "down"))), {}), d₂)
  let q₄ := q₃.moved 2 [] ((.finished (.error (.fault (.noPluginAvailable "nobody"))), {}),
    { d₂ with services := 3 })
  let q₅ := q₄.moved 1 [.ended 1 (.ok ())]
    ((.finished (.ok service), ⟨some service⟩), q₄.deployment)
  obtain ⟨steps₁, h₁⟩ : ∃ steps, Reaches calls (opening d) steps q₁ :=
    ⟨_, .single (.begin 0 rfl)⟩
  obtain ⟨steps₂, h₂⟩ : ∃ steps, Reaches calls (opening d) steps q₂ :=
    ⟨_, .next h₁ (.begin 1 rfl)⟩
  obtain ⟨steps₃, h₃⟩ : ∃ steps, Reaches calls (opening d) steps q₃ :=
    ⟨_, .next h₂ (.resume 0 (rfl : q₂.launches 0 = some (.waiting first 5 _)))⟩
  obtain ⟨steps₄, h₄⟩ : ∃ steps, Reaches calls (opening d) steps q₄ :=
    ⟨_, .next h₃ (.begin 2 rfl)⟩
  obtain ⟨more, h₅⟩ : ∃ more, Advances calls q₄ more q₅ :=
    ⟨_, .resume 1 (rfl : q₄.launches 1 = some (.waiting service 10 _))⟩
  have hsuccess : q₅.Returned 1 (.ok service) := rfl
  obtain ⟨-, -, hclient, -, -, -, hlate⟩ := set_once hd (.next h₄ h₅)
  obtain ⟨i, -, hclient⟩ := hclient 1 service hsuccess
  exact ⟨steps₄, more, q₄, q₅, hd, h₄, rfl, rfl, rfl, h₅, hsuccess, (hclient [] q₅ .here).1,
    hlate ⟨1, service, hsuccess⟩ 3 rfl⟩

end StartRace

end AccessGate
