/-
# Runs

An operation of an access manager answers, and on the way it may log, ask a probe
and wait. A `Run` holds the answer together with these steps in the order in which
they happen; running one operation after another joins their steps.

* `Run.elapsed`, `Run.calls` and `Run.events` read off how long a run takes, what
  the probes saw and what was logged;
* `Run.within` cuts a run short when its waiting exceeds a limit.
-/
import AccessGate.Log
import AccessGate.Question

namespace AccessGate

/-! ## Steps -/

/-- What a probe sees of the operations it takes part in. -/
inductive Call where
  | started
  | askedSubject
  | asked (inquiry : Inquiry)
  deriving DecidableEq

/-- One thing that happens during an operation. -/
inductive Step where
  | log (event : LogEvent)
  /-- The probe with the given number is called. -/
  | call (probe : Nat) (call : Call)
  /-- Everything waits, for some milliseconds. -/
  | wait (duration : Nat)
  deriving DecidableEq

namespace Step

/-- How long a step takes. -/
def duration : Step → Nat
  | wait d => d
  | _ => 0

/-- The call that a step is. -/
def call? : Step → Option (Nat × Call)
  | call p c => some (p, c)
  | _ => none

/-- The event that a step logs. -/
def event? : Step → Option LogEvent
  | log e => some e
  | _ => none

end Step

/-! ## Runs -/

/-- An answer with the steps that lead to it. -/
structure Run (α : Type) where
  steps : List Step
  value : α
  deriving DecidableEq

namespace Run

variable {α β : Type}

/-- The answer `f` gives to the answer of `r`, with the steps of both. -/
def andThen (r : Run α) (f : α → Run β) : Run β :=
  ⟨r.steps ++ (f r.value).steps, (f r.value).value⟩

instance : Monad Run where
  pure a := ⟨[], a⟩
  bind := andThen

@[simp]
theorem steps_pure (a : α) : (pure a : Run α).steps = [] :=
  rfl

@[simp]
theorem value_pure (a : α) : (pure a : Run α).value = a :=
  rfl

@[simp]
theorem steps_bind (r : Run α) (f : α → Run β) :
    (r >>= f).steps = r.steps ++ (f r.value).steps :=
  rfl

@[simp]
theorem value_bind (r : Run α) (f : α → Run β) : (r >>= f).value = (f r.value).value :=
  rfl

/-- Joining runs obeys the monad laws. -/
instance : LawfulMonad Run :=
  LawfulMonad.mk' Run
    (by intro α r; simp [Functor.map, andThen])
    (by intro α β a f; rfl)
    (by intro α β γ r f g; simp [bind, andThen])

@[simp]
theorem steps_map (f : α → β) (r : Run α) : (f <$> r).steps = r.steps := by
  simp [← bind_pure_comp]

@[simp]
theorem value_map (f : α → β) (r : Run α) : (f <$> r).value = f r.value :=
  rfl

/-- Runs are equal when their steps and answers are. -/
@[ext]
theorem ext {r s : Run α} (hsteps : r.steps = s.steps) (hvalue : r.value = s.value) : r = s := by
  cases r
  cases s
  simp_all

/-! ## The steps an operation is made of -/

/-- Log some events. -/
def log (es : List LogEvent) : Run Unit :=
  ⟨es.map .log, ()⟩

/-- Call a probe. -/
def call (probe : Nat) (c : Call) : Run Unit :=
  ⟨[.call probe c], ()⟩

/-- Wait some milliseconds. Not to wait is no step. -/
def wait (duration : Nat) : Run Unit :=
  ⟨if duration = 0 then [] else [.wait duration], ()⟩

/-! ## Reading steps -/

/-- How long some steps take together. -/
def elapsedIn : List Step → Nat
  | [] => 0
  | s :: rest => s.duration + elapsedIn rest

/-- Steps after steps take their times together. -/
@[simp]
theorem elapsedIn_append (xs ys : List Step) :
    elapsedIn (xs ++ ys) = elapsedIn xs + elapsedIn ys := by
  induction xs with
  | nil => simp [elapsedIn]
  | cons x xs ih =>
      rw [List.cons_append, elapsedIn, elapsedIn, ih]
      omega

/-- How long a run takes. -/
def elapsed (r : Run α) : Nat :=
  elapsedIn r.steps

/-- The calls of a run, in order. -/
def calls (r : Run α) : List (Nat × Call) :=
  r.steps.filterMap Step.call?

/-- The events a run logs, in order. -/
def events (r : Run α) : List LogEvent :=
  r.steps.filterMap Step.event?

@[simp]
theorem elapsed_pure (a : α) : (pure a : Run α).elapsed = 0 :=
  rfl

@[simp]
theorem calls_pure (a : α) : (pure a : Run α).calls = [] :=
  rfl

@[simp]
theorem events_pure (a : α) : (pure a : Run α).events = [] :=
  rfl

/-- Runs one after another take their times together. -/
@[simp]
theorem elapsed_bind (r : Run α) (f : α → Run β) :
    (r >>= f).elapsed = r.elapsed + (f r.value).elapsed := by
  simp [elapsed]

@[simp]
theorem elapsed_map (f : α → β) (r : Run α) : (f <$> r).elapsed = r.elapsed := by
  simp [elapsed]

/-- The calls of runs one after another are those of the first, then those of the
second. -/
@[simp]
theorem calls_bind (r : Run α) (f : α → Run β) :
    (r >>= f).calls = r.calls ++ (f r.value).calls := by
  simp [calls]

/-- The same holds of what they log. -/
@[simp]
theorem events_bind (r : Run α) (f : α → Run β) :
    (r >>= f).events = r.events ++ (f r.value).events := by
  simp [events]

/-- Logging takes no time. -/
@[simp]
theorem elapsed_log (es : List LogEvent) : (log es).elapsed = 0 := by
  induction es with
  | nil => rfl
  | cons e es ih =>
      simp only [elapsed, log, List.map_cons, elapsedIn] at ih ⊢
      rw [ih]
      rfl

/-- Logging calls nobody. -/
@[simp]
theorem calls_log (es : List LogEvent) : (log es).calls = [] := by
  simp [calls, log, Step.call?]

/-- What is logged is what the events are. -/
@[simp]
theorem events_log (es : List LogEvent) : (log es).events = es := by
  induction es with
  | nil => rfl
  | cons e es ih =>
      simp only [events, log, List.map_cons] at ih ⊢
      rw [List.filterMap_cons_some (by rfl), ih]

/-- Waiting takes as long as it says. -/
@[simp]
theorem elapsed_wait (d : Nat) : (wait d).elapsed = d := by
  by_cases h : d = 0
  · simp [elapsed, elapsedIn, wait, h]
  · simp [elapsed, elapsedIn, wait, h, Step.duration]

/-- Waiting calls nobody. -/
@[simp]
theorem calls_wait (d : Nat) : (wait d).calls = [] := by
  by_cases h : d = 0
  · simp [calls, wait, h]
  · simp [calls, wait, h, Step.call?]

/-! ## Limits -/

/-- The steps that happen before the waiting exceeds `limit`, and whether those are
all of them. What would last longer is waited for until the limit, and nothing
happens after it. -/
def cut : Nat → List Step → List Step × Bool
  | _, [] => ([], true)
  | limit, .wait d :: rest =>
      if d ≤ limit then
        let (kept, whole) := cut (limit - d) rest
        (.wait d :: kept, whole)
      else ([.wait limit], false)
  | limit, s :: rest =>
      let (kept, whole) := cut limit rest
      (s :: kept, whole)

/-- The run with its answer if its waiting stays within the limit, and what happens
of it up to the limit without an answer otherwise. -/
def within (limit : Option Nat) (r : Run α) : Run (Except GatewayFault α) :=
  match limit with
  | none => Except.ok <$> r
  | some l =>
      let (kept, whole) := cut l r.steps
      ⟨kept, if whole then .ok r.value else .error (.timedOut l)⟩

/-- A step within the limit is kept, and leaves what remains of the limit to the rest. -/
theorem cut_cons_of_le {limit : Nat} {s : Step} (rest : List Step) (h : s.duration ≤ limit) :
    cut limit (s :: rest) =
      (s :: (cut (limit - s.duration) rest).1, (cut (limit - s.duration) rest).2) := by
  cases s with
  | log e => rfl
  | call p c => rfl
  | wait d =>
      rw [Step.duration] at h
      rw [cut, if_pos h]
      rfl

/-- A step beyond the limit is a wait, of which the limit is left. -/
theorem cut_cons_of_lt {limit : Nat} {s : Step} (rest : List Step) (h : limit < s.duration) :
    cut limit (s :: rest) = ([.wait limit], false) := by
  cases s with
  | log e => cases h
  | call p c => cases h
  | wait d =>
      rw [Step.duration] at h
      rw [cut, if_neg (Nat.not_le.mpr h)]

/-- Steps that keep within the limit are all kept. -/
theorem cut_of_elapsed_le {limit : Nat} {steps : List Step} (h : elapsedIn steps ≤ limit) :
    cut limit steps = (steps, true) := by
  induction steps generalizing limit with
  | nil => simp [cut]
  | cons s rest ih =>
      rw [elapsedIn] at h
      have hs : s.duration ≤ limit := by omega
      have hrest : elapsedIn rest ≤ limit - s.duration := by omega
      rw [cut_cons_of_le rest hs, ih hrest]

/-- A run that keeps within its limit is not changed. -/
theorem within_of_elapsed_le {limit : Nat} {r : Run α} (h : r.elapsed ≤ limit) :
    r.within (some limit) = Except.ok <$> r := by
  have hc : cut limit r.steps = (r.steps, true) := cut_of_elapsed_le h
  ext1
  · simp [within, hc]
  · simp [within, hc]

end Run

end AccessGate
