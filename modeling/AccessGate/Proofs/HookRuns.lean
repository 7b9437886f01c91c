/-
# Backends started for one gateway

A call that starts a gateway looks whether the gateway is set before it runs the start of the
backend it has selected, and once more when that has succeeded. The first look spares the
backend of a call that comes too late. It does not help a call that begins while the start of
another call's backend waits: then both backends may be started with success, although only
one of the calls sets the gateway.

* `StartRace.Told` : what has become of the backend's start of a call, by where the call
  stands;
* `StartRace.Overlap` : a backend's start that begins while another one is under way;
* `StartRace.Recorded.advance` : starts that do not fail overlap;
* `StartRace.successful_starts_overlap` : what follows for the starts that succeed, and for
  calls that come too late.
-/
import AccessGate.Proofs.StartRace

namespace AccessGate

namespace HookEvent

variable {ι : Type}

/-- The call that an event is about. -/
def call : HookEvent ι → ι
  | began k => k
  | ended k _ => k

/-- Whether a backend's start has succeeded. -/
def isSuccess : HookEvent ι → Bool
  | ended _ (.ok _) => true
  | _ => false

theorem eq_ended_of_isSuccess {e : HookEvent ι} (h : e.isSuccess = true) :
    e = ended e.call (.ok ()) := by
  cases e with
  | began k => cases h
  | ended k outcome =>
      cases outcome with
      | error fault => cases h
      | ok u => rfl

end HookEvent

namespace StartRace

variable {ι : Type} {calls : ι → StartCall} {q q' : StartRace ι} {j k : ι}
  {a : (Launch × Gateway) × Deployment} {events history : List (HookEvent ι)}
  {steps : List Step} {d : Deployment}

/-! ## The story of one call -/

/-- What is told of a call's start of a backend, by where the call stands. Who has come too
late has started none, or has started one with success. -/
inductive Told (k : ι) : Option Launch → List (HookEvent ι) → Prop where
  | notBegun : Told k none []
  | notStarted (fault : StartupFault) : Told k (some (.finished (.error fault))) []
  | underWay (service : Service) (duration : Nat) (rest : Run (Except Fault Unit)) :
      Told k (some (.waiting service duration rest)) [.began k]
  | failed (fault : Fault) :
      Told k (some (.finished (.error (.fault fault)))) [.began k, .ended k (.error fault)]
  | late : Told k (some (.finished (.error .alreadyStarted))) [.began k, .ended k (.ok ())]
  | succeeded (service : Service) :
      Told k (some (.finished (.ok service))) [.began k, .ended k (.ok ())]

namespace Told

variable {told : List (HookEvent ι)}

/-- Nothing is told of a call that has not begun. -/
theorem eq_of_notBegun (h : Told k none told) : told = [] := by
  cases h
  rfl

/-- A launch that waits has begun its backend's start. -/
theorem eq_of_waiting {service : Service} {duration : Nat} {rest : Run (Except Fault Unit)}
    (h : Told k (some (.waiting service duration rest)) told) : told = [.began k] := by
  cases h
  rfl

/-- Who has come too late has begun no backend's start, or one that has succeeded. -/
theorem eq_of_late (h : Told k (some (.finished (.error .alreadyStarted))) told) :
    told = [] ∨ told = [.began k, .ended k (.ok ())] := by
  cases h with
  | notStarted _ => exact .inl rfl
  | late => exact .inr rfl

/-- Who has succeeded has begun a backend's start that has succeeded. -/
theorem eq_of_succeeded {service : Service}
    (h : Told k (some (.finished (.ok service))) told) :
    told = [.began k, .ended k (.ok ())] := by
  cases h
  rfl

/-- A backend's start that has succeeded was begun, has not failed, and the call has succeeded
or come too late. -/
theorem of_success {launch : Option Launch} (h : Told k launch told)
    (hsuccess : .ended k (.ok ()) ∈ told) :
    .began k ∈ told ∧ (∀ fault, .ended k (.error fault) ∉ told) ∧
      (launch = some (.finished (.error .alreadyStarted)) ∨
        ∃ service, launch = some (.finished (.ok service))) := by
  cases h with
  | notBegun => cases hsuccess
  | notStarted _ => cases hsuccess
  | underWay _ _ _ => simp at hsuccess
  | failed _ => simp at hsuccess
  | late => exact ⟨by simp, by simp, .inl rfl⟩
  | succeeded service => exact ⟨by simp, by simp, .inr ⟨service, rfl⟩⟩

/-- One call starts a backend with success once at most. -/
theorem length_successes_le {launch : Option Launch} (h : Told k launch told) :
    (told.filter HookEvent.isSuccess).length ≤ 1 := by
  cases h with
  | notBegun => exact Nat.zero_le 1
  | notStarted _ => exact Nat.zero_le 1
  | underWay _ _ _ => exact Nat.zero_le 1
  | failed _ => exact Nat.zero_le 1
  | late => exact Nat.le_refl 1
  | succeeded _ => exact Nat.le_refl 1

end Told

/-- A backend's start that goes on is told to the next wait or to the end. -/
theorem told_of_goes {service : Service} {start : Run (Except Fault Unit)} {g g' : Gateway}
    {launch : Launch} (h : Launch.Goes service start g launch g') (k : ι) :
    Told k (some launch) (.began k :: endings k start) := by
  cases h with
  | waits duration hwaits _ _ =>
      rw [endings, hwaits]
      exact .underWay service duration _
  | fails hfault =>
      rw [endings, hfault]
      exact .failed _
  | late hok _ =>
      rw [endings, hok]
      exact .late
  | succeeds hok _ =>
      rw [endings, hok]
      exact .succeeded service

/-- A call that begins has told of a backend's start or has begun none. -/
theorem told_of_begins
    (h : Launch.Begins (calls k) q.gateway q.deployment a.1.1 a.1.2 a.2) :
    Told k (some a.1.1) (q.beginnings calls k) := by
  obtain ⟨⟨launch, g⟩, d'⟩ := a
  cases h with
  | refused hset =>
      have hnone : q.beginnings calls k = [] := by
        simp [beginnings, StartCall.hook?, hset]
      rw [hnone]
      exact .notStarted _
  | unserved hunset hchoice =>
      have hnone : q.beginnings calls k = [] := by
        simp [beginnings, StartCall.hook?, hunset, hchoice]
      rw [hnone]
      exact .notStarted _
  | @launched i _ _ hunset hchoice hgoes =>
      have hbegun : q.beginnings calls k =
          .began k :: endings k ((calls k).hook q.deployment i) := by
        simp [beginnings, StartCall.hook?, hunset, hchoice]
      rw [hbegun]
      exact told_of_goes hgoes k

variable [DecidableEq ι]

/-- What has become of the backend's start of a call. -/
def story (q : StartRace ι) (k : ι) : List (HookEvent ι) :=
  q.history.filter fun e => e.call = k

omit [DecidableEq ι] in
/-- What is told of the end of a call's start is about the call. -/
theorem call_of_mem_endings {start : Run (Except Fault Unit)} {e : HookEvent ι}
    (he : e ∈ endings k start) : e.call = k := by
  obtain ⟨outcome, -, rfl⟩ := List.mem_map.mp he
  rfl

omit [DecidableEq ι] in
/-- So is what is told when it begins. -/
theorem call_of_mem_beginnings {e : HookEvent ι} (he : e ∈ q.beginnings calls k) :
    e.call = k := by
  rw [beginnings] at he
  split at he
  · cases he
  · rcases List.mem_cons.mp he with rfl | he
    · rfl
    · exact call_of_mem_endings he

/-- What is told of a call is added to its own story. -/
theorem story_moved_self (hevents : ∀ e ∈ events, e.call = k) :
    (q.moved k events a).story k = q.story k ++ events := by
  have hall : events.filter (fun e => e.call = k) = events :=
    List.filter_eq_self.mpr fun e he => decide_eq_true (hevents e he)
  rw [story, moved, List.filter_append, hall, story]

/-- The stories of the others stay as they are. -/
theorem story_moved_of_ne (hevents : ∀ e ∈ events, e.call = k) (hj : j ≠ k) :
    (q.moved k events a).story j = q.story j := by
  have hnone : events.filter (fun e => e.call = j) = [] := by
    refine List.filter_eq_nil_iff.mpr ?_
    intro e he
    rw [hevents e he]
    simpa using hj.symm
  rw [story, moved, List.filter_append, hnone, List.append_nil, story]

/-- A call that goes on has its story told as far as it comes. -/
theorem told_moved (hq : ∀ k, Told k (q.launches k) (q.story k))
    (hevents : ∀ e ∈ events, e.call = k) (hk : Told k (some a.1.1) (q.story k ++ events))
    (j : ι) : Told j ((q.moved k events a).launches j) ((q.moved k events a).story j) := by
  by_cases hj : j = k
  · rwa [hj, launches_moved_self, story_moved_self hevents]
  · rw [launches_moved_of_ne hj, story_moved_of_ne hevents hj]
    exact hq j

/-- **The story of each call is told as far as the call has come**, whatever happens next. -/
theorem told_advance (hd : q.deployment.Sound) (hq : ∀ k, Told k (q.launches k) (q.story k))
    (h : Advances calls q steps q') (j : ι) : Told j (q'.launches j) (q'.story j) := by
  cases h with
  | begin k hk =>
      obtain ⟨a, ha, hbegins⟩ := begin_cases hd k
      rw [ha]
      refine told_moved hq (fun e => call_of_mem_beginnings) ?_ j
      -- nothing was told of the call before
      have hstory := hq k
      rw [hk] at hstory
      rw [hstory.eq_of_notBegun]
      exact told_of_begins hbegins
  | @resume k service duration rest hk =>
      obtain ⟨a, ha, hgoes, -⟩ := resume_cases q k service duration rest
      rw [ha]
      refine told_moved hq (fun e => call_of_mem_endings) ?_ j
      -- only that the start has begun was told before
      have hstory := hq k
      rw [hk] at hstory
      rw [hstory.eq_of_waiting]
      exact told_of_goes hgoes k
  | elsewhere _ => exact hq j

/-! ## Starts that overlap -/

omit [DecidableEq ι] in
/-- When a backend's start goes on, none begins. -/
theorem began_notMem_endings (start : Run (Except Fault Unit)) :
    .began j ∉ endings k start := by
  intro hj
  obtain ⟨outcome, -, houtcome⟩ := List.mem_map.mp hj
  cases houtcome

omit [DecidableEq ι] in
/-- When a call begins, no start but its own begins, and that only if the gateway is not
set. -/
theorem of_began_mem_beginnings (h : .began j ∈ q.beginnings calls k) :
    j = k ∧ q.gateway.service = none ∧ ∃ after, q.beginnings calls k = .began k :: after := by
  have hj : j = k := call_of_mem_beginnings h
  rw [beginnings] at h ⊢
  split at h
  · cases h
  · rename_i start hstart
    rw [StartCall.hook?] at hstart
    split at hstart
    · rename_i hunset
      exact ⟨hj, hunset, _, rfl⟩
    · cases hstart

/-- Whether one call's start of a backend begins while another one's is under way. -/
def Overlap (history : List (HookEvent ι)) (j k : ι) : Prop :=
  ∃ before after, history = before ++ .began k :: after ∧ .began j ∈ before ∧
    ∀ outcome, .ended j outcome ∉ before

omit [DecidableEq ι] in
/-- Starts that overlap have overlapped ever after. -/
theorem Overlap.append (h : Overlap history j k) (events : List (HookEvent ι)) :
    Overlap (history ++ events) j k := by
  obtain ⟨before, after, hhistory, hbegan, hended⟩ := h
  refine ⟨before, after ++ events, ?_, hbegan, hended⟩
  rw [hhistory, List.append_assoc, List.cons_append]

/-- What the history of a moment tells: of each call as far as it has come; who comes too late
finds the gateway set; and any two starts of backends that have not failed overlap. -/
structure Recorded (q : StartRace ι) : Prop where
  told : ∀ k, Told k (q.launches k) (q.story k)
  late : ∀ k, q.Returned k (.error .alreadyStarted) → ∃ s, q.gateway.service = some s
  overlap : ∀ j k, j ≠ k → .began j ∈ q.history → .began k ∈ q.history →
    (∀ fault, .ended j (.error fault) ∉ q.history) →
    (∀ fault, .ended k (.error fault) ∉ q.history) →
      Overlap q.history j k ∨ Overlap q.history k j

/-- The story of a call has what the history tells of it. -/
theorem mem_story {e : HookEvent ι} : e ∈ q.story e.call ↔ e ∈ q.history := by
  simp [story]

namespace Recorded

/-- Before any call has begun there is nothing to tell. -/
theorem opening (d : Deployment) : (opening d : StartRace ι).Recorded where
  told k := .notBegun
  late k hk := by cases hk
  overlap j k _ hj := by cases hj

/-- If a backend's start has succeeded, the gateway is set. -/
theorem gateway_of_success (hq : q.Recorded) (hdecided : q.Decided)
    (hj : .ended j (.ok ()) ∈ q.history) : ∃ s, q.gateway.service = some s := by
  obtain ⟨-, -, hlate | ⟨s, hsucceeded⟩⟩ := (hq.told j).of_success (mem_story.mpr hj)
  · exact hq.late j hlate
  · exact ⟨s, hdecided.set j s hsucceeded⟩

/-- Who comes too late finds the gateway set, whatever happens next. -/
theorem late_advance (hq : q.Recorded) (hd : q.deployment.Sound)
    (h : Advances calls q steps q') (hj : q'.Returned j (.error .alreadyStarted)) :
    ∃ s, q'.gateway.service = some s := by
  have hbefore : q.Returned j (.error .alreadyStarted) → ∃ s, q'.gateway.service = some s := by
    intro hlate
    obtain ⟨s, hs⟩ := hq.late j hlate
    exact ⟨s, gateway_advance hd hs h⟩
  cases h with
  | begin k _ =>
      obtain ⟨a, ha, hbegins⟩ := begin_cases hd k
      rw [ha] at hj hbefore ⊢
      exact (returned_of_moved hj).elim hbegins.gateway_of_late hbefore
  | @resume k service duration rest _ =>
      obtain ⟨a, ha, hgoes, -⟩ := resume_cases q k service duration rest
      rw [ha] at hj hbefore ⊢
      exact (returned_of_moved hj).elim hgoes.gateway_of_late hbefore
  | elsewhere _ => exact hbefore hj

/-- Starts that had begun before overlap after some events if they do not fail in these
either. -/
theorem overlap_append (hq : q.Recorded) (hjk : j ≠ k) (hj : .began j ∈ q.history)
    (hk : .began k ∈ q.history)
    (hj' : ∀ fault, .ended j (.error fault) ∉ q.history ++ events)
    (hk' : ∀ fault, .ended k (.error fault) ∉ q.history ++ events) :
    Overlap (q.history ++ events) j k ∨ Overlap (q.history ++ events) k j := by
  rcases hq.overlap j k hjk hj hk (fun f hf => hj' f (List.mem_append_left _ hf))
    (fun f hf => hk' f (List.mem_append_left _ hf)) with h | h
  · exact .inl (h.append events)
  · exact .inr (h.append events)

/-- A backend's start that begins now overlaps with every other one that has not failed. If one
had succeeded, the gateway would be set. -/
theorem overlap_beginning (hq : q.Recorded) (hdecided : q.Decided)
    (hk : .began k ∈ q.beginnings calls k) (hj : .began j ∈ q.history)
    (hfault : ∀ fault, .ended j (.error fault) ∉ q.history) :
    Overlap (q.history ++ q.beginnings calls k) j k := by
  obtain ⟨-, hunset, after, hafter⟩ := of_began_mem_beginnings hk
  refine ⟨q.history, after, by rw [hafter], hj, ?_⟩
  rintro (fault | ⟨⟨⟩⟩) hended
  · exact hfault fault hended
  · obtain ⟨s, hs⟩ := hq.gateway_of_success hdecided hended
    rw [hunset] at hs
    cases hs

/-- **Whatever happens next, starts of backends that do not fail overlap.** -/
theorem advance (hq : q.Recorded) (hdecided : q.Decided) (hd : q.deployment.Sound)
    (h : Advances calls q steps q') : q'.Recorded := by
  refine ⟨told_advance hd hq.told h, fun k => hq.late_advance hd h, ?_⟩
  intro i j hij hi hj hi' hj'
  cases h with
  | begin k _ =>
      obtain ⟨a, ha, -⟩ := begin_cases hd k
      rw [ha] at hi hj hi' hj' ⊢
      have hold : ∀ {i}, (∀ f, .ended i (.error f) ∉ q.history ++ q.beginnings calls k) →
          ∀ f, .ended i (.error f) ∉ q.history :=
        fun hnew f hf => hnew f (List.mem_append_left _ hf)
      rcases List.mem_append.mp hi with hiold | hinew <;>
        rcases List.mem_append.mp hj with hjold | hjnew
      · exact hq.overlap_append hij hiold hjold hi' hj'
      · obtain ⟨rfl, -⟩ := of_began_mem_beginnings hjnew
        exact .inl (hq.overlap_beginning hdecided hjnew hiold (hold hi'))
      · obtain ⟨rfl, -⟩ := of_began_mem_beginnings hinew
        exact .inr (hq.overlap_beginning hdecided hinew hjold (hold hj'))
      · -- only one start begins at a time
        obtain ⟨rfl, -⟩ := of_began_mem_beginnings hinew
        obtain ⟨rfl, -⟩ := of_began_mem_beginnings hjnew
        exact absurd rfl hij
  | @resume k service duration rest _ =>
      obtain ⟨a, ha, -⟩ := resume_cases q k service duration rest
      rw [ha] at hi hj hi' hj' ⊢
      have hbegan : ∀ {i}, .began i ∈ q.history ++ endings k rest → .began i ∈ q.history :=
        fun hi => (List.mem_append.mp hi).resolve_right (began_notMem_endings rest)
      exact hq.overlap_append hij (hbegan hi) (hbegan hj) hi' hj'
  | elsewhere _ => exact hq.overlap i j hij hi hj hi' hj'

end Recorded

/-- The history of every moment is recorded. -/
theorem Reaches.recorded (h : Reaches calls (opening d) steps q) (hd : d.Reachable) :
    q.Recorded := by
  induction h with
  | here => exact .opening d
  | next hbefore hnext ih =>
      exact ih.advance (hbefore.decided hd) (hbefore.reachable hd).sound hnext

/-! ## What starts of backends come to -/

/-- **Backends that are started with success for one gateway are started at once.** Of any two
starts that succeed one begins while the other is under way; so if no start begins while
another one is under way, at most one succeeds. A call that comes too late has started no
backend, or it has started one with success, at once with the backend of the call that has
set the gateway. -/
theorem successful_starts_overlap (hd : d.Reachable)
    (h : Reaches calls (opening d) steps q) :
    (∀ j k, j ≠ k → .ended j (.ok ()) ∈ q.history → .ended k (.ok ()) ∈ q.history →
      Overlap q.history j k ∨ Overlap q.history k j) ∧
    ((∀ j k, ¬Overlap q.history j k) → (q.history.filter HookEvent.isSuccess).length ≤ 1) ∧
    (∀ k, q.Returned k (.error .alreadyStarted) → q.story k = [] ∨
      q.story k = [.began k, .ended k (.ok ())] ∧ ∃ j s, q.Returned j (.ok s) ∧
        q.story j = [.began j, .ended j (.ok ())] ∧
          (Overlap q.history j k ∨ Overlap q.history k j)) := by
  have hq := h.recorded hd
  have hdecided := h.decided hd
  have hoverlap : ∀ j k, j ≠ k → .ended j (.ok ()) ∈ q.history →
      .ended k (.ok ()) ∈ q.history → Overlap q.history j k ∨ Overlap q.history k j := by
    intro j k hjk hj hk
    obtain ⟨hbegan, hfault, -⟩ := (hq.told j).of_success (mem_story.mpr hj)
    obtain ⟨hbegan', hfault', -⟩ := (hq.told k).of_success (mem_story.mpr hk)
    exact hq.overlap j k hjk (mem_story.mp hbegan) (mem_story.mp hbegan')
      (fun f hf => hfault f (mem_story.mpr hf)) (fun f hf => hfault' f (mem_story.mpr hf))
  refine ⟨hoverlap, ?_, ?_⟩
  · intro hnone
    cases hsuccesses : q.history.filter HookEvent.isSuccess with
    | nil => exact Nat.zero_le 1
    | cons e rest =>
        -- they are all of one call, as nothing overlaps, and a call has one at most
        have hended : ∀ e' ∈ e :: rest, .ended e'.call (.ok ()) ∈ q.history := by
          intro e' he'
          rw [← hsuccesses, List.mem_filter] at he'
          exact HookEvent.eq_ended_of_isSuccess he'.2 ▸ he'.1
        have hsame : ∀ e' ∈ e :: rest, e'.call = e.call := by
          intro e' he'
          by_contra hne
          rcases hoverlap _ _ hne (hended e' he') (hended e List.mem_cons_self) with h | h
          · exact hnone _ _ h
          · exact hnone _ _ h
        have hstory : (q.story e.call).filter HookEvent.isSuccess = e :: rest := by
          rw [story, List.filter_comm, hsuccesses]
          exact List.filter_eq_self.mpr fun e' he' => decide_eq_true (hsame e' he')
        rw [← hstory]
        exact (hq.told e.call).length_successes_le
  · intro k hk
    have htold := hq.told k
    rw [hk] at htold
    rcases htold.eq_of_late with hnothing | hstarted
    · exact .inl hnothing
    · -- the gateway was set by another call, whose backend was started with success, too
      obtain ⟨s, hs⟩ := hq.late k hk
      obtain ⟨j, hj⟩ := hdecided.byCall s hs
      have hstory := hq.told j
      rw [hj] at hstory
      have hjstarted := hstory.eq_of_succeeded
      have hjk : j ≠ k := by
        rintro rfl
        cases hj.unique hk
      refine .inr ⟨hstarted, j, s, hj, hjstarted, hoverlap j k hjk ?_ ?_⟩
      · exact mem_story.mp (by simp [HookEvent.call, hjstarted])
      · exact mem_story.mp (by simp [HookEvent.call, hstarted])

/-- Two calls for the same backend, which is started twice at once: the call that begins last
goes on first and sets the gateway. -/
theorem successful_starts_overlap_same_backend :
    let p : Probe := { number := 0, name := "slow", startDelay := 10 }
    let d : Deployment := { registries := [⟨[⟨"slow", "acme", 1, .direct p.manager⟩]⟩] }
    let calls : Fin 2 → StartCall := fun _ => ⟨0, ⟨"acme", none⟩⟩
    ∃ steps q, d.Reachable ∧ Reaches calls (opening d) steps q ∧
      q.history = [.began 0, .began 1, .ended 1 (.ok ()), .ended 0 (.ok ())] ∧
      q.Returned 0 (.error .alreadyStarted) ∧
      (Overlap q.history 0 1 ∨ Overlap q.history 1 0) := by
  intro p d calls
  have hd : d.Reachable :=
    Deployment.Reachable.start.register 0 (i := ⟨"slow", "acme", 1, .direct p.manager⟩) trivial
  let first : Service := ⟨0, 0, "acme", none⟩
  let second : Service := ⟨1, 0, "acme", none⟩
  let d₁ : Deployment := { d with services := 1, selections := [(0, .direct p.manager)] }
  let d₂ : Deployment :=
    { d₁ with services := 2, selections := d₁.selections ++ [(1, .direct p.manager)] }
  let q₁ : StartRace (Fin 2) :=
    (opening d).moved 0 [.began 0] ((.waiting first 10 ⟨[], .ok ()⟩, {}), d₁)
  let q₂ := q₁.moved 1 [.began 1] ((.waiting second 10 ⟨[], .ok ()⟩, {}), d₂)
  let q₃ := q₂.moved 1 [.ended 1 (.ok ())] ((.finished (.ok second), ⟨some second⟩), d₂)
  let q₄ := q₃.moved 0 [.ended 0 (.ok ())]
    ((.finished (.error .alreadyStarted), ⟨some second⟩), d₂)
  obtain ⟨steps₂, h₂⟩ : ∃ steps, Reaches calls (opening d) steps q₂ :=
    ⟨_, .next (.single (.begin 0 rfl : Advances calls (opening d) _ q₁)) (.begin 1 rfl)⟩
  obtain ⟨steps₃, h₃⟩ : ∃ steps, Reaches calls (opening d) steps q₃ :=
    ⟨_, .next h₂ (.resume 1 (rfl : q₂.launches 1 = some (.waiting second 10 _)))⟩
  obtain ⟨steps₄, h₄⟩ : ∃ steps, Reaches calls (opening d) steps q₄ :=
    ⟨_, .next h₃ (.resume 0 (rfl : q₃.launches 0 = some (.waiting first 10 _)))⟩
  have hoverlap := (successful_starts_overlap hd h₄).1 0 1 (by decide)
    (by simp [q₄, q₃, q₂, q₁, moved]) (by simp [q₄, q₃, q₂, q₁, moved])
  exact ⟨steps₄, q₄, hd, h₄, rfl, rfl, hoverlap⟩

/-- **A backend is started in vain.** The second call begins while the backend of the first one
waits. Its own backend is started with success after the first call has set the gateway, and
the call fails all the same. That is what happens when the two calls are made at once. -/
theorem backend_started_in_vain :
    let a : Probe := { number := 0, name := "a", startDelay := 10 }
    let b : Probe := { number := 1, name := "b", startDelay := 20 }
    let d : Deployment :=
      { registries := [⟨[⟨"a", "a", 1, .direct a.manager⟩, ⟨"b", "b", 1, .direct b.manager⟩]⟩] }
    let calls : Fin 2 → StartCall := fun k => ⟨0, ⟨if k = 0 then "a" else "b", none⟩⟩
    let service : Service := ⟨0, 0, "a", none⟩
    let race := ((Gateway.race 0 (calls 0).settings (calls 1).settings).run {}).run d
    d.Reachable ∧
    (∃ steps q, Reaches calls (opening d) steps q ∧ q.Returned 0 (.ok service) ∧
      q.Returned 1 (.error .alreadyStarted) ∧ q.story 1 = [.began 1, .ended 1 (.ok ())] ∧
      (q.history.filter HookEvent.isSuccess).length = 2) ∧
    race.value.1.1 = (.ok service, .error .alreadyStarted) ∧
    race.calls = [(0, .started), (1, .started)] := by
  intro a b d calls service race
  have hd : d.Reachable :=
    (Deployment.Reachable.start.register 0 (i := ⟨"a", "a", 1, .direct a.manager⟩)
      trivial).register 0 (i := ⟨"b", "b", 1, .direct b.manager⟩) trivial
  let second : Service := ⟨1, 0, "b", none⟩
  let d₁ : Deployment := { d with services := 1, selections := [(0, .direct a.manager)] }
  let d₂ : Deployment :=
    { d₁ with services := 2, selections := d₁.selections ++ [(1, .direct b.manager)] }
  let q₁ : StartRace (Fin 2) :=
    (opening d).moved 0 [.began 0] ((.waiting service 10 ⟨[], .ok ()⟩, {}), d₁)
  let q₂ := q₁.moved 1 [.began 1] ((.waiting second 20 ⟨[], .ok ()⟩, {}), d₂)
  let q₃ := q₂.moved 0 [.ended 0 (.ok ())] ((.finished (.ok service), ⟨some service⟩), d₂)
  let q₄ := q₃.moved 1 [.ended 1 (.ok ())]
    ((.finished (.error .alreadyStarted), ⟨some service⟩), d₂)
  obtain ⟨steps₂, h₂⟩ : ∃ steps, Reaches calls (opening d) steps q₂ :=
    ⟨_, .next (.single (.begin 0 rfl : Advances calls (opening d) _ q₁)) (.begin 1 rfl)⟩
  obtain ⟨steps₃, h₃⟩ : ∃ steps, Reaches calls (opening d) steps q₃ :=
    ⟨_, .next h₂ (.resume 0 (rfl : q₂.launches 0 = some (.waiting service 10 _)))⟩
  obtain ⟨steps₄, h₄⟩ : ∃ steps, Reaches calls (opening d) steps q₄ :=
    ⟨_, .next h₃ (.resume 1 (rfl : q₃.launches 1 = some (.waiting second 20 _)))⟩
  exact ⟨hd, ⟨steps₄, q₄, h₄, rfl, rfl, rfl, rfl⟩, rfl, rfl⟩

end StartRace

end AccessGate
