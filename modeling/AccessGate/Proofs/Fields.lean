/-
# Members of records

A record is sorted out before it is read: its known members are kept, and it is refused if one
of them is repeated or, where that is the policy, if there are others. Its readers see no more
of it than what is found under each name, so the order of the members is lost on them.

* `Fields.known` : the members that a record knows;
* `Fields.ofMembers?_eq_some_iff` : when a record is accepted, and what is left of it;
* `Fields.rel_ofMembers?_perm` : members in another order;
* `Fields.rel_ofMembers?_replace` : another value in the place of one;
* `Fields.ofMembers?_insert_ignored`, `Fields.ofMembers?_insert_refused`,
  `Fields.ofMembers?_insert_repeated` : one member more;
* `Fields.ofItems?_eq_ofMembers?` : members given by position are members under those names.
-/
import AccessGate.Document
import Mathlib.Data.List.Basic
import Mathlib.Data.List.Nodup
import Mathlib.Data.List.Perm.Basic

namespace AccessGate

/-! ## Lists that are read item by item -/

section Items

variable {α β : Type} {f g : α → Option β}

/-- What has been read of a list was read from its items. -/
theorem exists_of_mapM {l : List α} {r : List β} (h : l.mapM f = some r) {b : β} (hb : b ∈ r) :
    ∃ a ∈ l, f a = some b := by
  induction l generalizing r with
  | nil =>
      cases h
      cases hb
  | cons a l ih =>
      rw [List.mapM_cons] at h
      simp only [Option.bind_eq_bind, Option.bind_eq_some_iff, Option.pure_def,
        Option.some.injEq] at h
      obtain ⟨b', hb', bs, hbs, rfl⟩ := h
      rcases List.mem_cons.mp hb with rfl | hb
      · exact ⟨a, List.mem_cons_self, hb'⟩
      · obtain ⟨a', ha', hread⟩ := ih hbs hb
        exact ⟨a', List.mem_cons_of_mem a ha', hread⟩

/-- Nothing is read from a list with an item from which nothing is read. -/
theorem mapM_eq_none {front behind : List α} {a : α} (h : f a = none) :
    (front ++ a :: behind).mapM f = none := by
  rw [List.mapM_append, List.mapM_cons, h]
  simp

/-- An item can be replaced by one that is read as the same. -/
theorem mapM_replace {front behind : List α} {a a' : α} (h : f a = f a') :
    (front ++ a :: behind).mapM f = (front ++ a' :: behind).mapM f := by
  rw [List.mapM_append, List.mapM_append, List.mapM_cons, List.mapM_cons, h]

/-- Readers that agree on the items agree on the list. -/
theorem mapM_congr {l : List α} (h : ∀ a ∈ l, f a = g a) : l.mapM f = l.mapM g := by
  induction l with
  | nil => rfl
  | cons a l ih =>
      rw [List.forall_mem_cons] at h
      rw [List.mapM_cons, List.mapM_cons, h.1, ih h.2]

end Items

/-- Results that are related are related less closely. -/
theorem rel_mono {α β : Type} {R R' : α → β → Prop} {found : Option α} {found' : Option β}
    (h : Option.Rel R found found') (hR : ∀ a b, R a b → R' a b) : Option.Rel R' found found' := by
  cases h with
  | none => exact .none
  | some hab => exact .some (hR _ _ hab)

namespace Fields

variable {δ : Type} {unknown : Unknown} {names : List String}
  {ms ms' front behind : List (String × δ)} {fs : Fields δ} {name : String} {v v' : δ}

/-! ## Looking members up -/

/-- Under names of its own, what is found under a name is its member. -/
theorem lookup_eq_some_iff_mem (h : (fs.map (·.1)).Nodup) :
    fs.lookup name = some v ↔ (name, v) ∈ fs := by
  induction fs with
  | nil => simp
  | cons m fs ih =>
      rw [List.map_cons, List.nodup_cons] at h
      rw [List.lookup_cons, List.mem_cons]
      by_cases hname : name = m.1
      · -- the other members have other names
        have hothers : (name, v) ∉ fs := by
          intro hmem
          exact h.1 (hname ▸ List.mem_map_of_mem (f := (·.1)) hmem)
        subst hname
        simp [hothers, Prod.ext_iff, eq_comm]
      · have hne : (name, v) ≠ m := fun heq => hname (congrArg (·.1) heq)
        rw [beq_eq_false_iff_ne.mpr hname]
        simp [hne, ih h.2]

/-- So it does not matter in which order the members stand. -/
theorem lookup_perm {fs' : Fields δ} (h : fs.Perm fs') (hnodup : (fs.map (·.1)).Nodup)
    (name : String) : fs.lookup name = fs'.lookup name := by
  have hnodup' : (fs'.map (·.1)).Nodup := (h.map (·.1)).nodup_iff.mp hnodup
  apply Option.ext
  intro v
  rw [lookup_eq_some_iff_mem hnodup, lookup_eq_some_iff_mem hnodup', h.mem_iff]

/-- What is read of a member with a default is the default or has been read from something. -/
theorem eq_or_exists_of_orDefault {α : Type} {read : δ → Option α} {default a : α}
    (h : fs.orDefault name default read = some a) : a = default ∨ ∃ d, read d = some a := by
  rw [orDefault] at h
  cases hd : fs.lookup name with
  | none =>
      rw [hd] at h
      exact .inl (Option.some.inj h).symm
  | some d =>
      rw [hd] at h
      exact .inr ⟨d, h⟩

/-- Whether what is found under a name in two records is related, for all names. -/
def Alike (R : String → δ → δ → Prop) (fs fs' : Fields δ) : Prop :=
  ∀ name, Option.Rel (R name) (fs.lookup name) (fs'.lookup name)

theorem Alike.mono {R R' : String → δ → δ → Prop} {fs fs' : Fields δ} (h : Alike R fs fs')
    (hR : ∀ name v v', R name v v' → R' name v v') : Alike R' fs fs' :=
  fun name => rel_mono (h name) (hR name)

/-- If nothing differs but the value of one member, then only these two values are found in the
place of each other. -/
theorem alike_replace {front behind : Fields δ} :
    Alike (fun k w w' => w = w' ∨ k = name ∧ w = v ∧ w' = v') (front ++ (name, v) :: behind)
      (front ++ (name, v') :: behind) := by
  intro k
  have hrefl : ∀ o : Option δ,
      Option.Rel (fun w w' => w = w' ∨ k = name ∧ w = v ∧ w' = v') o o := by
    intro o
    cases o with
    | none => exact .none
    | some w => exact .some (.inl rfl)
  rw [List.lookup_append, List.lookup_append, List.lookup_cons, List.lookup_cons]
  cases front.lookup k with
  | some w => exact hrefl (some w)
  | none =>
      by_cases hk : k = name
      · subst hk
        simp
      · rw [beq_eq_false_iff_ne.mpr hk]
        exact hrefl (behind.lookup k)

/-! ## Sorting members out -/

/-- The members under the given names. -/
def known (names : List String) (ms : List (String × δ)) : Fields δ :=
  ms.filter fun m => names.contains m.1

theorem known_append : known names (ms ++ ms') = known names ms ++ known names ms' :=
  List.filter_append ms ms'

theorem known_cons_of_mem (h : name ∈ names) :
    known names ((name, v) :: ms) = (name, v) :: known names ms := by
  rw [known, List.filter_cons_of_pos (by simpa using h)]
  rfl

theorem known_cons_of_notMem (h : name ∉ names) :
    known names ((name, v) :: ms) = known names ms := by
  rw [known, List.filter_cons_of_neg (by simpa using h)]
  rfl

theorem mem_known : (name, v) ∈ known names ms ↔ (name, v) ∈ ms ∧ name ∈ names := by
  simp [known]

/-- **When a record is accepted, and what is left of it.** None of its known members is
repeated, and there are no others if they are refused. -/
theorem ofMembers?_eq_some_iff :
    ofMembers? unknown names ms = some fs ↔
      (unknown = .refused → ∀ m ∈ ms, m.1 ∈ names) ∧ ((known names ms).map (·.1)).Nodup ∧
        fs = known names ms := by
  have hlength : (known names ms).length = ms.length ↔ ∀ m ∈ ms, m.1 ∈ names := by
    rw [known, List.length_filter_eq_length_iff]
    simp
  rw [ofMembers?, ← hlength]
  change (if unknown = .refused ∧ (known names ms).length ≠ ms.length then none
    else if ((known names ms).map (·.1)).Nodup then some (known names ms) else none) = some fs ↔ _
  split_ifs with hrefused hnodup
  · simp only [false_iff]
    rintro ⟨hall, -, -⟩
    exact hrefused.2 (hall hrefused.1)
  · simp only [Option.some.injEq, hnodup, true_and, eq_comm (a := fs)]
    exact (and_iff_right fun h => not_and_not_right.mp hrefused h).symm
  · simp [hnodup]

/-- A record is refused if a known member is repeated or, where that matters, if there is an
unknown one. -/
theorem ofMembers?_eq_none_iff :
    ofMembers? unknown names ms = none ↔
      ((unknown = .refused → ∀ m ∈ ms, m.1 ∈ names) → ¬((known names ms).map (·.1)).Nodup) := by
  simp only [Option.eq_none_iff_forall_ne_some, ne_eq, ofMembers?_eq_some_iff]
  constructor
  · intro h hall hnodup
    exact h _ ⟨hall, hnodup, rfl⟩
  · rintro h fs ⟨hall, hnodup, -⟩
    exact h hall hnodup

/-- A known member of an accepted record is found under its name. -/
theorem lookup_of_ofMembers? (h : ofMembers? unknown names ms = some fs) (hmem : (name, v) ∈ ms)
    (hname : name ∈ names) : fs.lookup name = some v := by
  obtain ⟨-, hnodup, rfl⟩ := ofMembers?_eq_some_iff.mp h
  exact (lookup_eq_some_iff_mem hnodup).mpr (mem_known.mpr ⟨hmem, hname⟩)

/-! ## Records that differ in little -/

/-- Two records are accepted or refused together, and what is left of them if they are accepted
is related. It is enough if this is so once they are sorted out. -/
theorem rel_ofMembers? {R : Fields δ → Fields δ → Prop}
    (hall : (∀ m ∈ ms, m.1 ∈ names) ↔ ∀ m ∈ ms', m.1 ∈ names)
    (hnodup : ((known names ms).map (·.1)).Nodup ↔ ((known names ms').map (·.1)).Nodup)
    (hR : ((known names ms).map (·.1)).Nodup → R (known names ms) (known names ms')) :
    Option.Rel R (ofMembers? unknown names ms) (ofMembers? unknown names ms') := by
  cases h : ofMembers? unknown names ms with
  | none =>
      rw [ofMembers?_eq_none_iff, hall, hnodup, ← ofMembers?_eq_none_iff] at h
      rw [h]
      exact .none
  | some fs =>
      obtain ⟨haccepted, hn, rfl⟩ := ofMembers?_eq_some_iff.mp h
      have h' : ofMembers? unknown names ms' = some (known names ms') := by
        rw [ofMembers?_eq_some_iff, ← hall, ← hnodup]
        exact ⟨haccepted, hn, rfl⟩
      rw [h']
      exact .some (hR hn)

/-- **The order of the members is lost.** -/
theorem rel_ofMembers?_perm (h : ms.Perm ms') :
    Option.Rel (Alike fun _ => Eq) (ofMembers? unknown names ms)
      (ofMembers? unknown names ms') := by
  have hknown : (known names ms).Perm (known names ms') := h.filter _
  refine rel_ofMembers? ?_ (hknown.map (·.1)).nodup_iff ?_
  · simp only [h.mem_iff]
  · intro hnodup name
    rw [lookup_perm hknown hnodup]
    cases (known names ms').lookup name with
    | none => exact .none
    | some v => exact .some rfl

/-- Another value in the place of a known member's is found in the place of that value. -/
theorem rel_ofMembers?_replace (h : name ∈ names) :
    Option.Rel (Alike fun k w w' => w = w' ∨ k = name ∧ w = v ∧ w' = v')
      (ofMembers? unknown names (front ++ (name, v) :: behind))
      (ofMembers? unknown names (front ++ (name, v') :: behind)) := by
  refine rel_ofMembers? ?_ ?_ ?_
  · simp only [List.forall_mem_append, List.forall_mem_cons]
  · simp [known_append, known_cons_of_mem h]
  · intro _
    rw [known_append, known_append, known_cons_of_mem h, known_cons_of_mem h]
    exact alike_replace

/-- A member under a name that the record does not know can be added if it is ignored. -/
theorem ofMembers?_insert_ignored (h : name ∉ names) :
    ofMembers? .ignored names (front ++ (name, v) :: behind) =
      ofMembers? .ignored names (front ++ behind) := by
  apply Option.ext
  intro fs
  simp [ofMembers?_eq_some_iff, known_append, known_cons_of_notMem h]

/-- It cannot be there if it is refused. -/
theorem ofMembers?_insert_refused (h : name ∉ names) :
    ofMembers? .refused names (front ++ (name, v) :: behind) = none := by
  rw [ofMembers?_eq_none_iff]
  intro hall
  exact absurd (hall rfl (name, v) (by simp)) h

/-- Whatever stands under a name that the record does not know, it makes no difference. -/
theorem ofMembers?_replace_unknown (h : name ∉ names) :
    ofMembers? unknown names (front ++ (name, v) :: behind) =
      ofMembers? unknown names (front ++ (name, v') :: behind) := by
  cases unknown with
  | ignored => rw [ofMembers?_insert_ignored h, ofMembers?_insert_ignored h]
  | refused => rw [ofMembers?_insert_refused h, ofMembers?_insert_refused h]

/-- A known member cannot be there again. -/
theorem ofMembers?_insert_repeated (h : name ∈ names) (hmem : name ∈ (front ++ behind).map (·.1)) :
    ofMembers? unknown names (front ++ (name, v) :: behind) = none := by
  rw [ofMembers?_eq_none_iff]
  intro _ hnodup
  have hknown : name ∈ (known names front ++ known names behind).map (·.1) := by
    obtain ⟨⟨k, w⟩, hw, rfl⟩ := List.mem_map.mp hmem
    rw [← known_append]
    exact List.mem_map_of_mem (f := (·.1)) (mem_known.mpr ⟨hw, h⟩)
  rw [known_append, known_cons_of_mem h, List.map_append, List.map_cons,
    List.nodup_middle, List.nodup_cons, ← List.map_append] at hnodup
  exact hnodup.1 hknown

/-! ## Members by position -/

/-- **Members given by position are members under the names in order**, and there may not be
more of them than names. -/
theorem ofItems?_eq_ofMembers? (hnames : names.Nodup) {vs : List δ} (h : vs.length ≤ names.length) :
    ofItems? names vs = ofMembers? unknown names (names.zip vs) := by
  have hmem : ∀ m ∈ names.zip vs, m.1 ∈ names := fun m hm => (List.of_mem_zip hm).1
  have hknown : known names (names.zip vs) = names.zip vs := by
    rw [known, List.filter_eq_self]
    simpa using hmem
  have hnodup : ((names.zip vs).map (·.1)).Nodup := by
    have htake : names.zip vs = (names.take vs.length).zip vs := by
      rw [List.zip_eq_zip_take_min, Nat.min_eq_right h, List.take_length]
    rw [htake, List.map_fst_zip (List.length_take_le _ _)]
    exact hnames.sublist (List.take_sublist _ _)
  rw [ofItems?, if_pos h]
  symm
  rw [ofMembers?_eq_some_iff, hknown]
  exact ⟨fun _ => hmem, hnodup, rfl⟩

/-- There may not be more values than names. -/
theorem ofItems?_eq_none {vs : List δ} (h : names.length < vs.length) : ofItems? names vs = none :=
  if_neg (Nat.not_le.mpr h)

end Fields

end AccessGate
