/-
# Starting in turns

The process-wide manager may be started by several callers at once. Each waits for its
turn; the one that has it looks whether the manager is set, starts a gateway of its own,
which may wait for its backend, sets the manager, and gives the turn back whatever came of
it. A `StartQueue` is a moment of this, and `StartQueue.Reaches` leads from moment to
moment in any order that the turns allow.

* `Launch.complete_proceed` : a launch that is taken from wait to wait comes to what it
  comes to in one go;
* `Caller.proceed_remaining` : so does a call;
* `StartQueue.whole_advance` : what has happened, with what the calls have left to do, is
  what happens when they are made one after another;
* `StartQueue.calls_take_turns` : what follows for the calls and for who reads the manager.
-/
import AccessGate.Gateway
import AccessGate.Manager.Probe
import AccessGate.Proofs.Timeline
import Mathlib.Logic.Function.Basic

namespace AccessGate

/-- What comes after some steps and a run comes after the steps of both. -/
theorem Run.mk_append_bind {α β : Type} (steps : List Step) (r : Run α) (f : α → Run β) :
    (Run.mk (steps ++ r.steps) () >>= fun _ => f r.value) =
      Run.mk steps () >>= fun _ => r >>= f := by
  ext1
  · simp
  · rfl

/-! ## Activities that are alike -/

namespace Activity

variable {α β : Type}

/-- Some steps, as part of an activity. -/
abbrev doing (steps : List Step) : Activity Unit :=
  liftM (Run.mk steps ())

/-- Whether two activities are alike on every deployment. -/
def Alike (x y : Activity α) : Prop :=
  ∀ d : Deployment, (x.run d).Alike (y.run d)

namespace Alike

variable {x y : Activity α}

theorem refl (x : Activity α) : Alike x x :=
  fun d => .refl (x.run d)

/-- Activities one after another are alike if they are one by one. -/
theorem bind (h : Alike x y) {f g : α → Activity β} (hf : ∀ a, Alike (f a) (g a)) :
    Alike (x >>= f) (y >>= g) := by
  intro d
  rw [StateT.run_bind, StateT.run_bind]
  exact (h d).bind fun p => hf p.1 p.2

end Alike

/-- A wait is as it is, also if it takes no time. -/
theorem alike_wait (d : Nat) : Alike (Run.wait d : Activity Unit) (doing [.wait d]) := by
  intro deployment
  refine ⟨rfl, ?_⟩
  simpa using Run.condensed_wait d

end Activity

/-! ## Launches from wait to wait -/

namespace Launch

open Activity

/-- **A launch that goes on to its next wait, and from there to its end, comes to its
end.** -/
theorem complete_proceed (service : Service) (outcome : Except Fault Unit) (steps : List Step)
    (g : Gateway) :
    Alike ((proceed service outcome steps >>= complete).run g)
      (doing steps >>= fun _ => (finish service outcome).run g) := by
  induction steps with
  | nil =>
      have hend : (proceed service outcome [] >>= complete).run g =
          (finish service outcome).run g := by
        simp [proceed, complete]
      rw [hend]
      exact .refl _
  | cons s rest ih =>
      have hcons : doing (s :: rest) = doing [s] >>= fun _ => doing rest := rfl
      rw [hcons, bind_assoc]
      -- at a wait the launch stops, and to complete it is to do all the rest
      cases s with
      | wait d =>
          have hwait : (proceed service outcome (.wait d :: rest) >>= complete).run g =
              (Run.wait d : Activity Unit) >>= fun _ =>
                doing rest >>= fun _ => (finish service outcome).run g := by
            simp [proceed, complete]
            rfl
          rw [hwait]
          exact (alike_wait d).bind fun _ => .refl _
      | log e =>
          have hlog : (proceed service outcome (.log e :: rest) >>= complete).run g =
              doing [.log e] >>= fun _ => (proceed service outcome rest >>= complete).run g := by
            simp [proceed]
          rw [hlog]
          exact (Alike.refl _).bind fun _ => ih
      | call p c =>
          have hcall : (proceed service outcome (.call p c :: rest) >>= complete).run g =
              doing [.call p c] >>= fun _ => (proceed service outcome rest >>= complete).run g := by
            simp [proceed]
          rw [hcall]
          exact (Alike.refl _).bind fun _ => ih

/-- A launch that waits, goes on to its next wait and from there to its end. -/
theorem complete_waiting (service : Service) (duration : Nat) (rest : Run (Except Fault Unit))
    (g : Gateway) :
    Alike ((do Run.wait duration; (← resume (.waiting service duration rest)).complete :
        Starting (Except StartupFault Service)).run g)
      ((complete (.waiting service duration rest)).run g) := by
  have hresume := complete_proceed service rest.value rest.steps g
  have hleft : (do Run.wait duration; (← resume (.waiting service duration rest)).complete :
        Starting (Except StartupFault Service)).run g =
      (Run.wait duration : Activity Unit) >>= fun _ =>
        (proceed service rest.value rest.steps >>= complete).run g := by
    simp [resume]
  have hright : (complete (.waiting service duration rest)).run g =
      (Run.wait duration : Activity Unit) >>= fun _ =>
        doing rest.steps >>= fun _ => (finish service rest.value).run g := by
    simp [complete]
    rfl
  rw [hleft, hright]
  exact (Alike.refl _).bind fun _ => hresume

end Launch

/-! ## One call -/

/-- The settings that a call is made with, and the registry it selects from. -/
structure StartCall where
  registry : Nat
  settings : GatewaySettings

/-- Where a call of the process-wide start stands. -/
inductive Caller where
  /-- It waits for its turn. -/
  | queued
  /-- It has got its turn and has not done anything yet. -/
  | admitted
  /-- Its gateway's backend starts, and waits. -/
  | starting (gateway : Gateway) (service : Service) (duration : Nat)
      (rest : Run (Except Fault Unit))
  | returned (result : Except StartupFault Service)

namespace Caller

/-- Whether a call has its turn. -/
def isActive : Caller → Bool
  | queued => false
  | admitted => true
  | starting _ _ _ _ => true
  | returned _ => false

/-- What a call does when its gateway has started, or failed: the manager is set if it is
not set yet. -/
def conclude : Except StartupFault Service → Process (Except StartupFault Service)
  | .error fault => return .error fault
  | .ok service => do
      match (← get).client with
      | some _ => return .error .managerAlreadySet
      | none =>
          set (ProcessWide.mk (some service))
          return .ok service

/-- Where a call stands when its gateway's launch stands at a wait or has ended. -/
def ofLaunch (gateway : Gateway) : Launch → Process Caller
  | .waiting service duration rest => return starting gateway service duration rest
  | .finished result => return returned (← conclude result)

/-- Take a call that has its turn to its next wait, or to its end. -/
def proceed (call : StartCall) : Caller → Process Caller
  | queued => return queued
  | admitted => do
      match (← get).client with
      | some _ => return returned (.error .managerAlreadySet)
      | none =>
          let (launch, gateway) ← (Launch.begin call.registry call.settings).run {}
          ofLaunch gateway launch
  | starting gateway service duration rest => do
      Run.wait duration
      let (launch, gateway) ← (Launch.resume (.waiting service duration rest)).run gateway
      ofLaunch gateway launch
  | returned result => return returned result

/-- What a gateway's launch has left to do, and the call after it. -/
def finish (gateway : Gateway) (launch : Launch) : Process (Except StartupFault Service) := do
  let (result, _) ← launch.complete.run gateway
  conclude result

/-- What a call has left to do, with nothing in between. -/
def remaining (call : StartCall) : Caller → Process (Except StartupFault Service)
  | queued => ProcessWide.start call.registry call.settings
  | admitted => ProcessWide.start call.registry call.settings
  | starting gateway service duration rest => finish gateway (.waiting service duration rest)
  | returned result => return result

open Activity

/-- What a launch leaves to the call is to conclude when it has ended. -/
theorem run_finish (gateway : Gateway) (launch : Launch) (p : ProcessWide) :
    (finish gateway launch).run p =
      launch.complete.run gateway >>= fun a => (conclude a.1).run p := by
  simp [finish]

/-- A call that stands where its gateway's launch does has that left to do. -/
theorem ofLaunch_remaining (call : StartCall) (gateway : Gateway) (launch : Launch) :
    ofLaunch gateway launch >>= remaining call = finish gateway launch := by
  cases launch with
  | waiting service duration rest => simp [ofLaunch, remaining]
  | finished result =>
      simp only [ofLaunch, finish, Launch.complete, bind_assoc, pure_bind]
      simp [remaining]

/-- While the manager is not set, to start it is to launch a gateway and to conclude. -/
theorem run_start_of_unset (call : StartCall) {p : ProcessWide} (hp : p.client = none) :
    (ProcessWide.start call.registry call.settings).run p =
      (Launch.begin call.registry call.settings).run {} >>= fun a => (finish a.2 a.1).run p := by
  simp only [run_finish]
  simp [ProcessWide.start, hp, Gateway.start]
  congr 1
  funext a
  congr 1
  funext b
  cases b.1 with
  | error fault => rfl
  | ok service => simp [conclude, hp]

/-- **A call that goes on, and then does what it has left to do, does what it had left to
do.** -/
theorem proceed_remaining (call : StartCall) (c : Caller) (p : ProcessWide) :
    Alike ((proceed call c >>= remaining call).run p) ((remaining call c).run p) := by
  cases c with
  | queued => exact .refl _
  | admitted =>
      -- the manager is looked at when the call has its turn, and nobody sets it meanwhile
      cases hp : p.client with
      | some service =>
          have hset : (proceed call admitted >>= remaining call).run p =
              (remaining call admitted).run p := by
            simp [proceed, remaining, ProcessWide.start, hp]
          rw [hset]
          exact .refl _
      | none =>
          have hunset : (proceed call admitted >>= remaining call).run p =
              (Launch.begin call.registry call.settings).run {} >>= fun a =>
                (ofLaunch a.2 a.1 >>= remaining call).run p := by
            simp [proceed, hp]
          rw [hunset, remaining, run_start_of_unset call hp]
          simp only [ofLaunch_remaining]
          exact .refl _
  | starting gateway service duration rest =>
      -- the launch goes on to its next wait, and what is left of it comes to its end
      have hgoes : (proceed call (starting gateway service duration rest) >>=
            remaining call).run p =
          (do Run.wait duration; (← Launch.resume (.waiting service duration rest)).complete :
            Starting (Except StartupFault Service)).run gateway >>= fun a =>
              (conclude a.1).run p := by
        have hrest : (proceed call (starting gateway service duration rest) >>=
              remaining call).run p =
            (Run.wait duration : Activity Unit) >>= fun _ =>
              (Launch.resume (.waiting service duration rest)).run gateway >>= fun a =>
                (ofLaunch a.2 a.1 >>= remaining call).run p := by
          simp [proceed]
        rw [hrest]
        simp [ofLaunch_remaining, run_finish]
      rw [hgoes, remaining, run_finish]
      exact (Launch.complete_waiting service duration rest gateway).bind fun a => .refl _
  | returned result => exact .refl _

/-- What going on can come to, with the manager before and after: the call waits again; it
ends with a fault and leaves the manager as it is; or it sets the manager, which is not
set. -/
inductive Goes (p : ProcessWide) : Caller → ProcessWide → Prop where
  | waits (gateway : Gateway) (service : Service) (duration : Nat)
      (rest : Run (Except Fault Unit)) : Goes p (starting gateway service duration rest) p
  | fails (fault : StartupFault) : Goes p (returned (.error fault)) p
  | succeeds (service : Service) :
      p.client = none → Goes p (returned (.ok service)) ⟨some service⟩

/-- A call that stands where its gateway's launch does has gone one of these ways. -/
theorem ofLaunch_goes (gateway : Gateway) (launch : Launch) (p : ProcessWide) (d : Deployment) :
    let a := (((ofLaunch gateway launch).run p).run d).value
    Goes p a.1.1 a.1.2 := by
  cases launch with
  | waiting service duration rest => exact .waits gateway service duration rest
  | finished result =>
      cases result with
      | error fault => exact .fails fault
      | ok service =>
          cases hp : p.client with
          | some other =>
              simp only [ofLaunch, conclude]
              simpa [hp] using .fails .managerAlreadySet
          | none =>
              simp only [ofLaunch, conclude]
              simpa [hp] using .succeeds service hp

/-- A call that has its turn goes one of these ways. -/
theorem proceed_goes (call : StartCall) {c : Caller} (hc : c.isActive = true) (p : ProcessWide)
    (d : Deployment) :
    let a := (((proceed call c).run p).run d).value
    Goes p a.1.1 a.1.2 := by
  cases c with
  | queued => cases hc
  | admitted =>
      cases hp : p.client with
      | some service => simpa [proceed, hp] using .fails .managerAlreadySet
      | none => simpa [proceed, hp] using ofLaunch_goes _ _ p _
  | starting gateway service duration rest => simpa [proceed] using ofLaunch_goes _ _ p _
  | returned result => cases hc

end Caller

/-- Calls one after another. -/
def ProcessWide.inTurn (calls : List StartCall) :
    Process (List (Except StartupFault Service)) :=
  calls.mapM fun call => start call.registry call.settings

/-! ## Many calls -/

/-- A moment at which calls of the process-wide start stand somewhere. -/
structure StartQueue (ι : Type) where
  process : ProcessWide := {}
  deployment : Deployment
  callers : ι → Caller := fun _ => .queued
  /-- The calls that have got a turn, in the order in which they got it. -/
  turns : List ι := []
  /-- Whose turn it is. -/
  holder : Option ι := none

namespace StartQueue

variable {ι : Type}

/-- Before anybody has got a turn. -/
def opening (d : Deployment) : StartQueue ι :=
  { deployment := d }

/-! ### Whose turn it is -/

/-- The turns are in order: a call gets one turn; only the one that has it now has not
returned, and the others that have not returned are still queued. -/
structure Orderly (q : StartQueue ι) : Prop where
  nodup : q.turns.Nodup
  queued : ∀ k, k ∉ q.turns → q.callers k = .queued
  free : q.holder = none → ∀ k ∈ q.turns, ∃ r, q.callers k = .returned r
  held : ∀ k, q.holder = some k → (q.callers k).isActive = true ∧
    ∃ ended, q.turns = ended ++ [k] ∧ ∀ j ∈ ended, ∃ r, q.callers j = .returned r

namespace Orderly

variable {q : StartQueue ι}

/-- Who has got a turn has it or has returned. -/
theorem holds_or_returned (hq : q.Orderly) {k : ι} (hk : k ∈ q.turns) :
    (q.holder = some k ∧ (q.callers k).isActive = true) ∨ ∃ r, q.callers k = .returned r := by
  cases hholder : q.holder with
  | none => exact .inr (hq.free hholder k hk)
  | some j =>
      obtain ⟨hj, ended, hturns, hended⟩ := hq.held j hholder
      rw [hturns, List.mem_append, List.mem_singleton] at hk
      rcases hk with hk | rfl
      · exact .inr (hended k hk)
      · exact .inl ⟨rfl, hj⟩

/-- Who acts has the turn. -/
theorem holder_of_isActive (hq : q.Orderly) {k : ι} (hk : (q.callers k).isActive = true) :
    q.holder = some k := by
  by_cases hmem : k ∈ q.turns
  · rcases hq.holds_or_returned hmem with ⟨hholder, -⟩ | ⟨r, hr⟩
    · exact hholder
    · rw [hr] at hk
      cases hk
  · rw [hq.queued k hmem] at hk
    cases hk

/-- Who has got a turn is not queued any more. -/
theorem queued_iff (hq : q.Orderly) (k : ι) : q.callers k = .queued ↔ k ∉ q.turns := by
  refine ⟨?_, hq.queued k⟩
  intro hk hmem
  rcases hq.holds_or_returned hmem with ⟨-, hactive⟩ | ⟨r, hr⟩
  · rw [hk] at hactive
    cases hactive
  · rw [hk] at hr
    cases hr

/-- Who had its turn before is another call. -/
theorem ne_of_mem_ended (hq : q.Orderly) {ended : List ι} {k : ι}
    (hturns : q.turns = ended ++ [k]) : ∀ j ∈ ended, j ≠ k := by
  intro j hj
  have hnodup := hq.nodup
  rw [hturns, List.nodup_append] at hnodup
  exact hnodup.2.2 j hj k (List.mem_singleton_self k)

/-- Before anybody has got a turn they are in order. -/
theorem opening (d : Deployment) : (opening d : StartQueue ι).Orderly where
  nodup := List.nodup_nil
  queued _ _ := rfl
  free _ _ hk := by cases hk
  held _ hk := by cases hk

end Orderly

/-! ### What can happen -/

variable [DecidableEq ι] (calls : ι → StartCall)

/-- The moment after a call has got its turn. -/
def giveTurn (q : StartQueue ι) (k : ι) : StartQueue ι :=
  { q with
    callers := Function.update q.callers k .admitted
    turns := q.turns ++ [k]
    holder := some k }

/-- The moment after a call has gone on. One that has returned gives its turn back. -/
def moved (q : StartQueue ι) (k : ι) (a : (Caller × ProcessWide) × Deployment) : StartQueue ι :=
  { q with
    process := a.1.2
    deployment := a.2
    callers := Function.update q.callers k a.1.1
    holder := if a.1.1.isActive then q.holder else none }

/-- Take a call to its next wait, or to its end. -/
def proceed (q : StartQueue ι) (k : ι) : Run (StartQueue ι) :=
  q.moved k <$> (((q.callers k).proceed (calls k)).run q.process).run q.deployment

/-- What can happen next, with the steps it takes: somebody gets the turn if nobody has it,
or a call that has its turn goes on. -/
inductive Advances (q : StartQueue ι) : List Step → StartQueue ι → Prop where
  | giveTurn (k : ι) : q.holder = none → q.callers k = .queued → Advances q [] (q.giveTurn k)
  | proceed (k : ι) : (q.callers k).isActive = true →
      Advances q (q.proceed calls k).steps (q.proceed calls k).value

/-- What can come of a moment, with all the steps on the way. -/
inductive Reaches (q : StartQueue ι) : List Step → StartQueue ι → Prop where
  | here : Reaches q [] q
  | next {steps more : List Step} {q' q'' : StartQueue ι} :
      Reaches q steps q' → Advances calls q' more q'' → Reaches q (steps ++ more) q''

variable {q q' : StartQueue ι} {k : ι} {a : (Caller × ProcessWide) × Deployment}
  {steps : List Step}

@[simp]
theorem callers_giveTurn_self : (q.giveTurn k).callers k = .admitted := by
  simp [giveTurn]

@[simp]
theorem callers_moved_self : (q.moved k a).callers k = a.1.1 := by
  simp [moved]

theorem callers_giveTurn_of_ne {j : ι} (h : j ≠ k) : (q.giveTurn k).callers j = q.callers j := by
  simp [giveTurn, h]

theorem callers_moved_of_ne {j : ι} (h : j ≠ k) : (q.moved k a).callers j = q.callers j := by
  simp [moved, h]

/-- What a call that has its turn can do: it goes on in one of its ways. -/
theorem proceed_goes (hk : (q.callers k).isActive = true) :
    ∃ a, (q.proceed calls k).value = q.moved k a ∧ Caller.Goes q.process a.1.1 a.1.2 :=
  ⟨_, rfl, Caller.proceed_goes (calls k) hk q.process q.deployment⟩

/-- **Whatever happens next keeps the turns in order.** -/
theorem Orderly.advance (hq : q.Orderly) (h : Advances calls q steps q') : q'.Orderly := by
  cases h with
  | giveTurn k hfree hk =>
      have hnew : k ∉ q.turns := (hq.queued_iff k).mp hk
      have hne : ∀ j ∈ q.turns, j ≠ k := fun j hj hjk => hnew (hjk ▸ hj)
      refine ⟨?_, ?_, ?_, ?_⟩
      · exact List.nodup_append.mpr ⟨hq.nodup, List.nodup_cons.mpr ⟨by simp, List.nodup_nil⟩,
          fun j hj k' hk' => List.mem_singleton.mp hk' ▸ hne j hj⟩
      · intro j hj
        obtain ⟨hj, hjk⟩ : j ∉ q.turns ∧ j ≠ k := by simpa [giveTurn] using hj
        rw [callers_giveTurn_of_ne hjk]
        exact hq.queued j hj
      · intro hnone
        cases hnone
      · intro j hj
        cases hj
        refine ⟨by rw [callers_giveTurn_self]; rfl, q.turns, rfl, ?_⟩
        intro j hj
        rw [callers_giveTurn_of_ne (hne j hj)]
        exact hq.free hfree j hj
  | proceed k hk =>
      have hholder := hq.holder_of_isActive hk
      obtain ⟨-, ended, hturns, hended⟩ := hq.held k hholder
      have hne := hq.ne_of_mem_ended hturns
      obtain ⟨a, ha, hgoes⟩ := proceed_goes calls hk
      rw [ha]
      have hended' : ∀ j ∈ ended, ∃ r, (q.moved k a).callers j = .returned r := by
        intro j hj
        rw [callers_moved_of_ne (hne j hj)]
        exact hended j hj
      refine ⟨hq.nodup, ?_, ?_, ?_⟩
      · intro j hj
        have hjk : j ≠ k := by
          rintro rfl
          exact hj (hturns ▸ List.mem_append_right ended (List.mem_singleton_self j))
        rw [callers_moved_of_ne hjk]
        exact hq.queued j hj
      · -- the turn is given back by a call that has returned
        intro hnone j hj
        rw [moved, hturns, List.mem_append, List.mem_singleton] at hj
        rcases hj with hj | rfl
        · exact hended' j hj
        · rw [callers_moved_self]
          rcases a with ⟨⟨c, p⟩, d⟩
          cases hgoes with
          | waits gateway service duration rest =>
              simp [moved, Caller.isActive, hholder] at hnone
          | fails fault => exact ⟨_, rfl⟩
          | succeeds service hp => exact ⟨_, rfl⟩
      · intro j hj
        by_cases hactive : a.1.1.isActive = true
        · rw [moved, hactive, if_pos rfl, hholder] at hj
          cases hj
          exact ⟨by rw [callers_moved_self, hactive], ended, hturns, hended'⟩
        · simp [moved, hactive] at hj

/-! ### Who sets the manager -/

/-- The manager is set by the call that succeeds, to what this call returns, and no two
calls succeed. -/
structure Decided (q : StartQueue ι) : Prop where
  set : ∀ k service, q.callers k = .returned (.ok service) → q.process.client = some service
  byCall : ∀ service, q.process.client = some service →
    ∃ k, q.callers k = .returned (.ok service)
  once : ∀ j k service service', q.callers j = .returned (.ok service) →
    q.callers k = .returned (.ok service') → j = k

omit [DecidableEq ι] in
/-- If a call neither had succeeded nor succeeds now, and the manager is left alone, then
who has succeeded is as before. -/
theorem Decided.of_same (hq : q.Decided) (hprocess : q'.process = q.process)
    (hcallers : ∀ j service, q'.callers j = .returned (.ok service) ↔
      q.callers j = .returned (.ok service)) : q'.Decided where
  set j service hj := by
    rw [hprocess]
    exact hq.set j service ((hcallers j service).mp hj)
  byCall service hservice := by
    rw [hprocess] at hservice
    obtain ⟨j, hj⟩ := hq.byCall service hservice
    exact ⟨j, (hcallers j service).mpr hj⟩
  once i j service service' hi hj :=
    hq.once i j service service' ((hcallers i service).mp hi) ((hcallers j service').mp hj)

/-- **Whatever happens next, at most one call succeeds**, and the manager is what it
returned. -/
theorem Decided.advance (hq : q.Decided) (h : Advances calls q steps q') : q'.Decided := by
  cases h with
  | giveTurn k hfree hk =>
      refine hq.of_same rfl ?_
      intro j service
      by_cases hjk : j = k
      · rw [hjk, callers_giveTurn_self, hk]
        simp
      · rw [callers_giveTurn_of_ne hjk]
  | proceed k hk =>
      obtain ⟨⟨⟨c, p⟩, d⟩, ha, hgoes⟩ := proceed_goes calls hk
      rw [ha]
      have hsame : (∀ service, c ≠ .returned (.ok service)) → ∀ j service,
          (q.moved k ((c, p), d)).callers j = .returned (.ok service) ↔
            q.callers j = .returned (.ok service) := by
        intro hc j service
        by_cases hjk : j = k
        · rw [hjk, callers_moved_self]
          refine iff_of_false (hc service) ?_
          intro hreturned
          rw [hreturned] at hk
          cases hk
        · rw [callers_moved_of_ne hjk]
      cases hgoes with
      | waits gateway service duration rest => exact hq.of_same rfl (hsame (by simp))
      | fails fault => exact hq.of_same rfl (hsame (by simp))
      | succeeds service hp =>
          -- the manager was not set, so nobody had succeeded
          have hnobody : ∀ j other, q.callers j ≠ .returned (.ok other) := by
            intro j other hj
            rw [hq.set j other hj] at hp
            cases hp
          have honly : ∀ j other,
              (q.moved k ((.returned (.ok service), ⟨some service⟩), d)).callers j =
                .returned (.ok other) → j = k ∧ other = service := by
            intro j other hj
            by_cases hjk : j = k
            · rw [hjk, callers_moved_self] at hj
              cases hj
              exact ⟨hjk, rfl⟩
            · rw [callers_moved_of_ne hjk] at hj
              exact absurd hj (hnobody j other)
          refine ⟨?_, ?_, ?_⟩
          · intro j other hj
            rw [(honly j other hj).2]
            rfl
          · intro other hother
            cases hother
            exact ⟨k, callers_moved_self⟩
          · intro i j other other' hi hj
            rw [(honly i other hi).1, (honly j other' hj).1]

/-- A manager that is set stays as it is. -/
theorem client_advance {service : Service} (hq : q.process.client = some service)
    (h : Advances calls q steps q') : q'.process.client = some service := by
  cases h with
  | giveTurn k _ _ => exact hq
  | proceed k hk =>
      obtain ⟨⟨⟨c, p⟩, d⟩, ha, hgoes⟩ := proceed_goes calls hk
      rw [ha]
      cases hgoes with
      | waits gateway service duration rest => exact hq
      | fails fault => exact hq
      | succeeds service hp =>
          rw [hq] at hp
          cases hp

/-! ### The calls one after another -/

/-- What the calls that have got a turn have left to do, one after another. -/
def pending (q : StartQueue ι) : Process (List (Except StartupFault Service)) :=
  (q.turns.map fun k => (q.callers k).remaining (calls k)).mapM id

omit [DecidableEq ι] in
/-- Calls that have returned have nothing left to do. -/
theorem mapM_remaining {ks : List ι} (h : ∀ k ∈ ks, ∃ r, q.callers k = .returned r) :
    ∃ results : List (Except StartupFault Service), ks.map q.callers = results.map .returned ∧
      (ks.map fun k => (q.callers k).remaining (calls k)).mapM id = pure results := by
  induction ks with
  | nil => exact ⟨[], rfl, rfl⟩
  | cons k ks ih =>
      obtain ⟨r, hr⟩ := h k List.mem_cons_self
      obtain ⟨results, hresults, hmap⟩ := ih fun j hj => h j (List.mem_cons_of_mem k hj)
      refine ⟨r :: results, ?_, ?_⟩
      · rw [List.map_cons, List.map_cons, hr, hresults]
      · rw [List.map_cons, List.mapM_cons, hmap, hr]
        simp [Caller.remaining]

omit [DecidableEq ι] in
/-- While a call has its turn, it alone has anything left to do, wherever it stands. -/
theorem Orderly.pending_of_holder (hq : q.Orderly) (hholder : q.holder = some k) :
    ∃ results : List (Except StartupFault Service), ∀ q' : StartQueue ι, q'.turns = q.turns →
      (∀ j, j ≠ k → q'.callers j = q.callers j) →
        q'.pending calls = (results ++ [·]) <$> (q'.callers k).remaining (calls k) := by
  obtain ⟨-, ended, hturns, hended⟩ := hq.held k hholder
  obtain ⟨results, -, hresults⟩ := mapM_remaining calls hended
  refine ⟨results, ?_⟩
  intro q' hturns' hcallers
  have hbefore : (ended.map fun j => (q'.callers j).remaining (calls j)) =
      ended.map fun j => (q.callers j).remaining (calls j) := by
    apply List.map_congr_left
    intro j hj
    rw [hcallers j (hq.ne_of_mem_ended hturns j hj)]
  rw [pending, hturns', hturns, List.map_append, hbefore, List.mapM_append, hresults]
  simp

/-- What has happened, and then all that is left to do. -/
def whole (q : StartQueue ι) (steps : List Step) :
    Run ((List (Except StartupFault Service) × ProcessWide) × Deployment) :=
  Run.mk steps () >>= fun _ => ((q.pending calls).run q.process).run q.deployment

/-- **Whatever happens next, the whole is as if the calls were made one after another** in
the order of their turns, if it was so before. -/
theorem whole_advance (hq : q.Orderly) {d : Deployment} {more : List Step}
    (hwhole : (q.whole calls steps).Alike
      (((ProcessWide.inTurn (q.turns.map calls)).run {}).run d))
    (h : Advances calls q more q') :
    (q'.whole calls (steps ++ more)).Alike
      (((ProcessWide.inTurn (q'.turns.map calls)).run {}).run d) := by
  cases h with
  | giveTurn k hfree hk =>
      -- the call has everything left to do, and comes after the calls that have had a turn
      have hnew : k ∉ q.turns := (hq.queued_iff k).mp hk
      have hbefore : (q.turns.map fun j => ((q.giveTurn k).callers j).remaining (calls j)) =
          q.turns.map fun j => (q.callers j).remaining (calls j) := by
        apply List.map_congr_left
        intro j hj
        rw [callers_giveTurn_of_ne fun hjk : j = k => hnew (hjk ▸ hj)]
      have hpending : (q.giveTurn k).pending calls = do
          let results ← q.pending calls
          let result ← ProcessWide.start (calls k).registry (calls k).settings
          return results ++ [result] := by
        have hturns : (q.giveTurn k).turns = q.turns ++ [k] := rfl
        rw [pending, hturns, List.map_append, hbefore, List.mapM_append, pending]
        simp [Caller.remaining]
      have hserial : ProcessWide.inTurn ((q.giveTurn k).turns.map calls) = do
          let results ← ProcessWide.inTurn (q.turns.map calls)
          let result ← ProcessWide.start (calls k).registry (calls k).settings
          return results ++ [result] := by
        simp [giveTurn, ProcessWide.inTurn]
      rw [whole, hpending, hserial]
      simp only [StateT.run_bind, List.append_nil]
      rw [← bind_assoc]
      exact hwhole.bind fun _ => .refl _
  | proceed k hk =>
      -- no other call has anything left to do, so what this one does now comes first
      obtain ⟨results, hpending⟩ := hq.pending_of_holder calls (hq.holder_of_isActive hk)
      have hbefore : q.whole calls steps = Run.mk steps () >>= fun _ =>
          ((Caller.remaining (calls k) (q.callers k)).run q.process).run q.deployment >>= fun a =>
            pure ((results ++ [a.1.1], a.1.2), a.2) := by
        rw [whole, hpending q rfl fun _ _ => rfl]
        simp [← bind_pure_comp]
      have hafter : (q.proceed calls k).value.whole calls (steps ++ (q.proceed calls k).steps) =
          Run.mk steps () >>= fun _ =>
            ((Caller.proceed (calls k) (q.callers k) >>= Caller.remaining (calls k)).run
              q.process).run q.deployment >>= fun a =>
                pure ((results ++ [a.1.1], a.1.2), a.2) := by
        have hsteps : (q.proceed calls k).steps =
            ((((q.callers k).proceed (calls k)).run q.process).run q.deployment).steps :=
          Run.steps_map _ _
        have hvalue : (q.proceed calls k).value = q.moved k
            ((((q.callers k).proceed (calls k)).run q.process).run q.deployment).value :=
          Run.value_map _ _
        rw [whole, hpending (q.proceed calls k).value rfl fun j hj => callers_moved_of_ne hj,
          hsteps, hvalue, callers_moved_self, StateT.run_bind, StateT.run_bind, bind_assoc,
          ← Run.mk_append_bind]
        simp [← bind_pure_comp, moved]
      rw [hafter]
      refine Run.Alike.trans ?_ (hbefore ▸ hwhole)
      refine (Run.Alike.refl _).bind fun _ => ?_
      exact (Caller.proceed_remaining (calls k) (q.callers k) q.process q.deployment).bind
        fun _ => .refl _

/-! ### From the beginning -/

namespace Reaches

variable {calls} {d : Deployment}

/-- Every moment is in order, and decided by the call that has succeeded; what has happened
and what is left to do are as one after another. -/
theorem invariant (h : Reaches calls (opening d) steps q) :
    q.Orderly ∧ q.Decided ∧
      (q.whole calls steps).Alike (((ProcessWide.inTurn (q.turns.map calls)).run {}).run d) := by
  induction h with
  | here =>
      refine ⟨.opening d, ⟨?_, ?_, ?_⟩, .refl _⟩
      · intro k service hk
        cases hk
      · intro service hservice
        cases hservice
      · intro j k service service' hj
        cases hj
  | next _ hnext ih =>
      obtain ⟨horderly, hdecided, hwhole⟩ := ih
      exact ⟨horderly.advance calls hnext, hdecided.advance calls hnext,
        whole_advance calls horderly hwhole hnext⟩

/-- A manager that is set stays as it is for ever. -/
theorem client (h : Reaches calls q steps q') {service : Service}
    (hq : q.process.client = some service) : q'.process.client = some service := by
  induction h with
  | here => exact hq
  | next _ hnext ih => exact client_advance calls ih hnext

end Reaches

/-- **Calls of the process-wide start take turns.** Whenever the turn is free, the results,
the manager, the deployment and all that has been done are as if the calls had been made
one after another in the order of their turns; it has taken as long, and the same hooks have
begun at the same times. At every moment at most one call acts and at most one has succeeded.
Once one has, a call that gets its turn fails at once, and who reads the manager gets the
client that was returned, for ever; as long as none has, the manager is not set and a call
that gets its turn launches its gateway. -/
theorem calls_take_turns {d : Deployment} (h : Reaches calls (opening d) steps q) :
    (q.holder = none → ∃ results : List (Except StartupFault Service),
      q.turns.map q.callers = results.map .returned ∧
        let inTurn := ((ProcessWide.inTurn (q.turns.map calls)).run {}).run d
        (Run.mk steps ((results, q.process), q.deployment)).Alike inTurn ∧
          Run.elapsedIn steps = inTurn.elapsed ∧ Run.timelineFrom 0 steps = inTurn.timeline) ∧
    q.turns.Nodup ∧ (∀ k, q.callers k = .queued ↔ k ∉ q.turns) ∧
    (∀ j k, (q.callers j).isActive = true → (q.callers k).isActive = true → j = k) ∧
    (∀ j k service service', q.callers j = .returned (.ok service) →
      q.callers k = .returned (.ok service') → j = k) ∧
    (∀ j service, q.callers j = .returned (.ok service) →
      (∀ k, q.callers k = .admitted → q.proceed calls k =
        pure (q.moved k ((.returned (.error .managerAlreadySet), q.process), q.deployment))) ∧
      ∀ more q', Reaches calls q more q' → q'.process.api? = .ok (.client service)) ∧
    ((∀ j service, q.callers j ≠ .returned (.ok service)) →
      q.process.api? = .error .notInitialized ∧
      ∀ k, q.callers k = .admitted → ((q.callers k).proceed (calls k)).run q.process =
        (Launch.begin (calls k).registry (calls k).settings).run {} >>= fun a =>
          (Caller.ofLaunch a.2 a.1).run {}) := by
  obtain ⟨horderly, hdecided, hwhole⟩ := h.invariant
  refine ⟨?_, horderly.nodup, horderly.queued_iff, ?_, hdecided.once, ?_, ?_⟩
  · intro hfree
    obtain ⟨results, hresults, hnothing⟩ := mapM_remaining calls (horderly.free hfree)
    have hdone : q.whole calls steps = Run.mk steps ((results, q.process), q.deployment) := by
      rw [whole, pending, hnothing]
      ext1
      · simp
      · rfl
    rw [hdone] at hwhole
    exact ⟨results, hresults, hwhole, hwhole.agrees.elapsed, hwhole.agrees.timeline⟩
  · intro j k hj hk
    have hholder := horderly.holder_of_isActive hj
    rw [horderly.holder_of_isActive hk] at hholder
    exact (Option.some.inj hholder).symm
  · intro j service hj
    have hset := hdecided.set j service hj
    refine ⟨?_, ?_⟩
    · intro k hk
      simp [proceed, hk, Caller.proceed, hset]
    · intro more q' hmore
      rw [ProcessWide.api?, hmore.client hset]
  · intro hnobody
    have hunset : q.process.client = none := by
      cases hclient : q.process.client with
      | none => rfl
      | some service =>
          obtain ⟨j, hj⟩ := hdecided.byCall service hclient
          exact absurd hj (hnobody j service)
    have hprocess : q.process = {} := by
      rw [← hunset]
    refine ⟨by rw [ProcessWide.api?, hunset], ?_⟩
    intro k hk
    rw [hprocess, hk]
    simp [Caller.proceed]

/-- Three calls: the first one's backend fails to start, the one that gets the next turn
succeeds, and the last one comes too late. The second hook begins when the first has failed. -/
theorem calls_take_turns_second_succeeds :
    let failing : Probe :=
      { number := 0, name := "failing", startDelay := 10, startFault := some "down" }
    let sound : Probe := { number := 1, name := "sound", startDelay := 5 }
    let d : Deployment :=
      { registries := [⟨[⟨"failing", "acme", 1, .direct failing.manager⟩,
          ⟨"sound", "front", 1, .direct sound.manager⟩]⟩] }
    let calls : Fin 3 → StartCall := fun k => ⟨0, ⟨if k = 0 then "acme" else "front", none⟩⟩
    let service : Service := ⟨1, 0, "front", none⟩
    ∃ steps q, Reaches calls (opening d) steps q ∧ q.turns = [0, 2, 1] ∧
      q.callers 0 = .returned (.error (.fault (.internal "down"))) ∧
      q.callers 2 = .returned (.ok service) ∧
      q.callers 1 = .returned (.error .managerAlreadySet) ∧
      q.process.api? = .ok (.client service) ∧
      (∃ results : List (Except StartupFault Service),
        q.turns.map q.callers = results.map .returned ∧
          (Run.mk steps ((results, q.process), q.deployment)).Alike
            (((ProcessWide.inTurn (q.turns.map calls)).run {}).run d)) ∧
      Run.elapsedIn steps = 15 ∧
      Run.timelineFrom 0 steps = [(0, 0, .started), (10, 1, .started)] := by
  intro failing sound d calls service
  -- the moments of the run, each of them what the call makes of the one before
  let first : Service := ⟨0, 0, "acme", none⟩
  let d₁ : Deployment := { d with services := 1, selections := [(0, .direct failing.manager)] }
  let d₂ : Deployment :=
    { d₁ with services := 2, selections := d₁.selections ++ [(1, .direct sound.manager)] }
  let q₁ : StartQueue (Fin 3) := ((opening d).giveTurn 0).moved 0
    ((.starting {} first 10 ⟨[], .error (.internal "down")⟩, {}), d₁)
  let q₂ := q₁.moved 0 ((.returned (.error (.fault (.internal "down"))), {}), d₁)
  let q₃ := (q₂.giveTurn 2).moved 2 ((.starting {} service 5 ⟨[], .ok ()⟩, {}), d₂)
  let q₄ := q₃.moved 2 ((.returned (.ok service), ⟨some service⟩), d₂)
  let q₅ := (q₄.giveTurn 1).moved 1 ((.returned (.error .managerAlreadySet), ⟨some service⟩), d₂)
  obtain ⟨steps₁, h₁⟩ : ∃ steps, Reaches calls (opening d) steps q₁ :=
    ⟨_, .next (.next .here (.giveTurn 0 rfl rfl)) (.proceed 0 rfl)⟩
  obtain ⟨steps₂, h₂⟩ : ∃ steps, Reaches calls (opening d) steps q₂ :=
    ⟨_, .next h₁ (.proceed 0 rfl)⟩
  obtain ⟨steps₃, h₃⟩ : ∃ steps, Reaches calls (opening d) steps q₃ :=
    ⟨_, .next (.next h₂ (.giveTurn 2 rfl rfl)) (.proceed 2 rfl)⟩
  obtain ⟨steps₄, h₄⟩ : ∃ steps, Reaches calls (opening d) steps q₄ :=
    ⟨_, .next h₃ (.proceed 2 rfl)⟩
  obtain ⟨steps₅, h₅⟩ : ∃ steps, Reaches calls (opening d) steps q₅ :=
    ⟨_, .next (.next h₄ (.giveTurn 1 rfl rfl)) (.proceed 1 rfl)⟩
  have hsuccess : q₅.callers 2 = .returned (.ok service) := rfl
  have hturns := calls_take_turns calls h₅
  obtain ⟨results, hresults, halike, helapsed, htimeline⟩ := hturns.1 rfl
  refine ⟨steps₅, q₅, h₅, rfl, rfl, hsuccess, rfl, ?_, ⟨results, hresults, halike⟩,
    helapsed.trans (by decide +kernel), htimeline.trans (by decide +kernel)⟩
  exact (hturns.2.2.2.2.2.1 2 service hsuccess).2 _ q₅ .here

end StartQueue

end AccessGate
