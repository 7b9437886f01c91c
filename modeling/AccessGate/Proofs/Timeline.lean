/-
# Timelines and limits

A run that is cut at a limit loses its answer and everything that would have happened
later. What is left of it follows from when things happen: a call is kept if the waiting
before it is within the limit, and the run takes no longer than the limit.

* `Run.timeline` : the calls of a run, each with the waiting before it, which is what
  `Run.mem_timelineFrom` says;
* `Run.timelineFrom_cut`, `Run.elapsedIn_cut`, `Run.whole_cut` : what `Run.cut` keeps;
* `Run.timeline_within`, `Run.elapsed_within`, `Run.value_within` : the same of a whole
  run with a limit that may be missing;
* `Run.Agrees` : runs that nobody but a reader of the log can tell apart;
* `Run.Alike` : runs that nobody can tell apart.
-/
import AccessGate.Run

namespace AccessGate

/-! ## Limits -/

/-- Whether a time is within a limit. Without a limit every time is. -/
def InTime (limit : Option Nat) (t : Nat) : Prop :=
  ∀ l ∈ limit, t ≤ l

instance (limit : Option Nat) (t : Nat) : Decidable (InTime limit t) :=
  inferInstanceAs (Decidable (∀ l ∈ limit, t ≤ l))

@[simp]
theorem inTime_none (t : Nat) : InTime none t := by
  simp [InTime]

@[simp]
theorem inTime_some {l t : Nat} : InTime (some l) t ↔ t ≤ l := by
  simp [InTime]

/-- A time, or the limit if that comes first. -/
def capped (limit : Option Nat) (t : Nat) : Nat :=
  limit.elim t fun l => min t l

/-- A time within the limit is not capped. -/
theorem capped_of_inTime {limit : Option Nat} {t : Nat} (h : InTime limit t) :
    capped limit t = t := by
  cases limit with
  | none => rfl
  | some l =>
      rw [inTime_some] at h
      exact Nat.min_eq_left h

/-- The stricter of two limits. -/
def stricter : Option Nat → Option Nat → Option Nat :=
  Option.merge min

/-- A time is within the stricter limit if it is within both. -/
theorem inTime_stricter {l l' : Option Nat} {t : Nat} :
    InTime (stricter l l') t ↔ InTime l t ∧ InTime l' t := by
  cases l with
  | none => simp [stricter]
  | some l =>
      cases l' with
      | none => simp [stricter]
      | some l' =>
          show InTime (some (min l l')) t ↔ _
          rw [inTime_some, inTime_some, inTime_some]
          omega

/-- Capping twice is capping at the stricter limit. -/
theorem capped_capped (l l' : Option Nat) (t : Nat) :
    capped l (capped l' t) = capped (stricter l l') t := by
  cases l with
  | none => simp [stricter, capped]
  | some l =>
      cases l' with
      | none => simp [stricter, capped]
      | some l' =>
          show min (min t l') l = min t (min l l')
          omega

namespace Run

variable {α β : Type}

/-! ## When calls are made -/

/-- The calls among some steps, each with the time at which it is made. The steps begin
at `now`. -/
def timelineFrom (now : Nat) : List Step → List (Nat × Nat × Call)
  | [] => []
  | .call probe c :: rest => (now, probe, c) :: timelineFrom now rest
  | s :: rest => timelineFrom (now + s.duration) rest

/-- The calls of a run, each with the waiting before it. -/
def timeline (r : Run α) : List (Nat × Nat × Call) :=
  timelineFrom 0 r.steps

/-- A step is on the timeline if it is a call, and delays the rest by the time it takes. -/
theorem timelineFrom_cons (now : Nat) (s : Step) (rest : List Step) :
    timelineFrom now (s :: rest) =
      s.call?.toList.map (now, ·) ++ timelineFrom (now + s.duration) rest := by
  cases s <;> rfl

/-- Steps after steps are timed from the end of the first. -/
theorem timelineFrom_append (now : Nat) (xs ys : List Step) :
    timelineFrom now (xs ++ ys) =
      timelineFrom now xs ++ timelineFrom (now + elapsedIn xs) ys := by
  induction xs generalizing now with
  | nil => rfl
  | cons x xs ih =>
      rw [List.cons_append, timelineFrom_cons, timelineFrom_cons, ih, elapsedIn, List.append_assoc,
        Nat.add_assoc]

/-- **A call is on the timeline at the time of the waiting before it.** -/
theorem mem_timelineFrom {now : Nat} {steps : List Step} {c : Nat × Nat × Call} :
    c ∈ timelineFrom now steps ↔
      ∃ before after, steps = before ++ .call c.2.1 c.2.2 :: after ∧
        c.1 = now + elapsedIn before := by
  constructor
  · intro h
    induction steps generalizing now with
    | nil => cases h
    | cons s rest ih =>
        rw [timelineFrom_cons, List.mem_append] at h
        rcases h with h | h
        · cases s with
          | call p c' =>
              rw [Step.call?, Option.toList_some, List.map_singleton, List.mem_singleton] at h
              rw [h]
              exact ⟨[], rest, rfl, rfl⟩
          | log e => cases h
          | wait d => cases h
        · obtain ⟨before, after, hrest, hnow⟩ := ih h
          refine ⟨s :: before, after, by rw [hrest, List.cons_append], ?_⟩
          rw [hnow, elapsedIn, Nat.add_assoc]
  · rintro ⟨before, after, hsteps, hnow⟩
    rw [hsteps, timelineFrom_append, timelineFrom, ← hnow]
    exact List.mem_append_right _ List.mem_cons_self

/-- The timeline of runs one after another is that of the first, then that of the second
from the end of the first. -/
theorem timeline_bind (r : Run α) (f : α → Run β) :
    (r >>= f).timeline = r.timeline ++ timelineFrom r.elapsed (f r.value).steps := by
  rw [timeline, steps_bind, timelineFrom_append, Nat.zero_add]
  rfl

/-- Without its times a timeline is the list of calls. -/
theorem map_timelineFrom (now : Nat) (steps : List Step) :
    (timelineFrom now steps).map Prod.snd = steps.filterMap Step.call? := by
  induction steps generalizing now with
  | nil => rfl
  | cons s rest ih => cases s <;> simp [timelineFrom, List.filterMap_cons, Step.call?, ih]

/-- The calls of a run are those on its timeline. -/
theorem calls_eq_map_timeline (r : Run α) : r.calls = r.timeline.map Prod.snd :=
  (map_timelineFrom 0 r.steps).symm

/-- No call is made before the steps begin. -/
theorem le_of_mem_timelineFrom {now : Nat} {steps : List Step} {c : Nat × Nat × Call}
    (h : c ∈ timelineFrom now steps) : now ≤ c.1 := by
  obtain ⟨before, after, -, hnow⟩ := mem_timelineFrom.mp h
  omega

/-! ## What is kept of steps that are cut -/

/-- The steps are kept whole if they take no longer than the limit. -/
theorem whole_cut (limit : Nat) (steps : List Step) :
    (cut limit steps).2 = decide (elapsedIn steps ≤ limit) := by
  induction steps generalizing limit with
  | nil => simp [cut, elapsedIn]
  | cons s rest ih =>
      rw [elapsedIn]
      by_cases h : s.duration ≤ limit
      · rw [cut_cons_of_le rest h, ih, decide_eq_decide]
        omega
      · rw [cut_cons_of_lt rest (Nat.lt_of_not_le h), eq_comm, decide_eq_false_iff_not]
        omega

/-- What is kept takes as long as the steps do, at most until the limit. -/
theorem elapsedIn_cut (limit : Nat) (steps : List Step) :
    elapsedIn (cut limit steps).1 = min (elapsedIn steps) limit := by
  induction steps generalizing limit with
  | nil => simp [cut, elapsedIn]
  | cons s rest ih =>
      rw [elapsedIn]
      by_cases h : s.duration ≤ limit
      · rw [cut_cons_of_le rest h, elapsedIn, ih]
        omega
      · rw [cut_cons_of_lt rest (Nat.lt_of_not_le h)]
        show limit + 0 = _
        omega

/-- **A call is kept if it is made within the limit**, also at the limit itself. -/
theorem timelineFrom_cut (now limit : Nat) (steps : List Step) :
    timelineFrom now (cut limit steps).1 =
      (timelineFrom now steps).filter fun c => c.1 ≤ now + limit := by
  induction steps generalizing now limit with
  | nil => rfl
  | cons s rest ih =>
      by_cases h : s.duration ≤ limit
      · -- the step itself is kept, and the rest has the rest of the limit from where it begins
        have hend : now + s.duration + (limit - s.duration) = now + limit := by omega
        have hstep : (s.call?.toList.map (now, ·)).filter (fun c => c.1 ≤ now + limit) =
            s.call?.toList.map (now, ·) := by
          cases s <;> simp [Step.call?]
        rw [cut_cons_of_le rest h, timelineFrom_cons, timelineFrom_cons, List.filter_append, hstep,
          ih, hend]
      · -- only a wait is as long as that, and whatever comes after it comes after the limit
        have hlt : limit < s.duration := Nat.lt_of_not_le h
        rw [cut_cons_of_lt rest hlt]
        show [] = _
        symm
        rw [List.filter_eq_nil_iff]
        intro c hc
        cases s with
        | wait d =>
            have hle : now + (Step.wait d).duration ≤ c.1 := le_of_mem_timelineFrom hc
            rw [decide_eq_true_eq]
            omega
        | log e => cases hlt
        | call p c' => cases hlt

/-! ## Runs with a limit -/

/-- A run with a limit has an answer if it keeps within the limit. -/
theorem value_within (limit : Option Nat) (r : Run α) :
    (r.within limit).value =
      if InTime limit r.elapsed then .ok r.value else .error (.timedOut (limit.getD 0)) := by
  cases limit with
  | none => simp [within]
  | some l => simp [within, whole_cut, elapsed]

/-- A run with a limit takes no longer than that. -/
theorem elapsed_within (limit : Option Nat) (r : Run α) :
    (r.within limit).elapsed = capped limit r.elapsed := by
  cases limit with
  | none => simp [within, elapsed, capped]
  | some l => exact elapsedIn_cut l r.steps

/-- A run with a limit makes the calls that are made in time. -/
theorem timeline_within (limit : Option Nat) (r : Run α) :
    (r.within limit).timeline = r.timeline.filter fun c => InTime limit c.1 := by
  cases limit with
  | none =>
      have hall : r.timeline.filter (fun c => InTime none c.1) = r.timeline :=
        List.filter_eq_self.mpr (by simp)
      rw [hall, within, timeline, steps_map, timeline]
  | some l =>
      have hcut := timelineFrom_cut 0 l r.steps
      simp only [Nat.zero_add] at hcut
      simpa [timeline, within] using hcut

/-! ## Agreement -/

/-- Whether two runs give the same answer, take equally long and make the same calls at
the same times. They may log differently. -/
structure Agrees (r s : Run α) : Prop where
  value : r.value = s.value
  elapsed : r.elapsed = s.elapsed
  timeline : r.timeline = s.timeline

namespace Agrees

variable {r s t : Run α}

@[refl]
theorem refl (r : Run α) : r.Agrees r :=
  ⟨rfl, rfl, rfl⟩

theorem trans (h : r.Agrees s) (h' : s.Agrees t) : r.Agrees t :=
  ⟨h.value.trans h'.value, h.elapsed.trans h'.elapsed, h.timeline.trans h'.timeline⟩

end Agrees

/-! ## Likeness -/

/-- Steps without the waits that take no time, which nobody notices. -/
def condensed (steps : List Step) : List Step :=
  steps.filter (· ≠ .wait 0)

theorem condensed_append (xs ys : List Step) :
    condensed (xs ++ ys) = condensed xs ++ condensed ys :=
  List.filter_append xs ys

/-- Not to wait is no step, and to wait is one. -/
theorem condensed_wait (d : Nat) : condensed (wait d).steps = condensed [.wait d] := by
  by_cases h : d = 0
  · simp [wait, condensed, h]
  · simp [wait, h]

/-- They take the same time. -/
theorem elapsedIn_condensed (steps : List Step) : elapsedIn (condensed steps) = elapsedIn steps := by
  induction steps with
  | nil => rfl
  | cons s rest ih =>
      by_cases h : s = .wait 0
      · rw [condensed, List.filter_cons_of_neg (by simp [h]), ← condensed, ih, elapsedIn, h,
          Step.duration, Nat.zero_add]
      · rw [condensed, List.filter_cons_of_pos (by simp [h]), ← condensed, elapsedIn, elapsedIn, ih]

/-- The calls among them are made at the same times. -/
theorem timelineFrom_condensed (now : Nat) (steps : List Step) :
    timelineFrom now (condensed steps) = timelineFrom now steps := by
  induction steps generalizing now with
  | nil => rfl
  | cons s rest ih =>
      by_cases h : s = .wait 0
      · rw [condensed, List.filter_cons_of_neg (by simp [h]), ← condensed, ih, h]
        rfl
      · rw [condensed, List.filter_cons_of_pos (by simp [h]), ← condensed, timelineFrom_cons,
          timelineFrom_cons, ih]

/-- Whether two runs give the same answer and do the same, but for waits that take no
time. -/
structure Alike (r s : Run α) : Prop where
  value : r.value = s.value
  steps : condensed r.steps = condensed s.steps

namespace Alike

variable {r s t : Run α}

@[refl]
theorem refl (r : Run α) : r.Alike r :=
  ⟨rfl, rfl⟩

theorem trans (h : r.Alike s) (h' : s.Alike t) : r.Alike t :=
  ⟨h.value.trans h'.value, h.steps.trans h'.steps⟩

/-- Runs one after another are alike if they are one by one. -/
theorem bind (h : r.Alike s) {f g : α → Run β} (hf : ∀ a, (f a).Alike (g a)) :
    (r >>= f).Alike (s >>= g) where
  value := by
    rw [value_bind, value_bind, h.value]
    exact (hf s.value).value
  steps := by
    rw [steps_bind, steps_bind, condensed_append, condensed_append, h.steps, h.value,
      (hf s.value).steps]

/-- Runs that are alike agree. -/
theorem agrees (h : r.Alike s) : r.Agrees s where
  value := h.value
  elapsed := by
    rw [elapsed, elapsed, ← elapsedIn_condensed, h.steps, elapsedIn_condensed]
  timeline := by
    rw [timeline, timeline, ← timelineFrom_condensed, h.steps, timelineFrom_condensed]

end Alike

end Run

end AccessGate
