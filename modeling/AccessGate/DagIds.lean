/-
# Sets of DAG ids

A set of DAG ids is listed in ascending order of code points, each id once. The
order is part of the type, so two sets with the same members are equal lists and
what is shown to users never depends on how a set was built.

* `DagIds.ofList` collects any list into a set;
* `DagIds.mem_ofList` : it has exactly the members of the list;
* `DagIds.ofList_toList` : a set collected again is itself.
-/

namespace AccessGate

/-- Ids in strictly ascending order. -/
structure DagIds where
  toList : List String
  ascending : toList.Pairwise (· < ·)
  deriving DecidableEq

namespace DagIds

/-! ## Building a set -/

/-- No ids. -/
def empty : DagIds :=
  ⟨[], .nil⟩

/-- Put `a` where it belongs in an ascending list, unless it is there. -/
def insertInto (a : String) : List String → List String
  | [] => [a]
  | b :: bs => if a < b then a :: b :: bs else if a = b then b :: bs else b :: insertInto a bs

/-- Inserting adds one member and loses none. -/
theorem mem_insertInto {a x : String} {l : List String} :
    x ∈ insertInto a l ↔ x = a ∨ x ∈ l := by
  induction l with
  | nil => simp [insertInto]
  | cons b bs ih =>
      unfold insertInto
      split
      · simp
      · split
        · next h => subst h; simp
        · simp only [List.mem_cons, ih]
          constructor
          · rintro (h | h | h) <;> simp [h]
          · rintro (h | h | h) <;> simp [h]

/-- Inserting keeps the order. -/
theorem pairwise_insertInto {a : String} {l : List String} (h : l.Pairwise (· < ·)) :
    (insertInto a l).Pairwise (· < ·) := by
  induction l with
  | nil => simp [insertInto]
  | cons b bs ih =>
      obtain ⟨hb, hbs⟩ := List.pairwise_cons.mp h
      unfold insertInto
      split
      · next hab =>
        refine List.pairwise_cons.mpr ⟨?_, h⟩
        intro x hx
        rcases List.mem_cons.mp hx with rfl | hx
        · exact hab
        · exact String.lt_trans hab (hb x hx)
      · next hab =>
        split
        · exact h
        · next hne =>
          refine List.pairwise_cons.mpr ⟨?_, ih hbs⟩
          intro x hx
          rcases mem_insertInto.mp hx with rfl | hx
          · have hle : b ≤ x := String.not_lt.mp hab
            apply Decidable.byContradiction
            intro hlt
            exact hne (String.le_antisymm (String.not_lt.mp hlt) hle)
          · exact hb x hx

/-- The set of the members of a list. -/
def ofList (l : List String) : DagIds :=
  l.foldr (fun a s => ⟨insertInto a s.toList, pairwise_insertInto s.ascending⟩) empty

/-! ## Members -/

instance : Membership String DagIds where
  mem s a := a ∈ s.toList

/-- The number of ids. -/
def size (s : DagIds) : Nat :=
  s.toList.length

/-- Whether there are no ids. -/
def isEmpty (s : DagIds) : Bool :=
  s.toList.isEmpty

/-- A set without members is empty. -/
theorem eq_empty {s : DagIds} (h : ∀ a, a ∉ s.toList) : s = empty := by
  have hnil : s.toList = [] := List.eq_nil_iff_forall_not_mem.mpr h
  cases s
  simp_all [empty]

/-- A collected set has exactly the members of the list. -/
theorem mem_ofList {a : String} {l : List String} : a ∈ (ofList l).toList ↔ a ∈ l := by
  induction l with
  | nil => simp [ofList, empty]
  | cons b bs ih =>
      have h : (ofList (b :: bs)).toList = insertInto b (ofList bs).toList := rfl
      rw [h, mem_insertInto, ih, List.mem_cons]

/-- An id below all others is put in front. -/
theorem insertInto_of_lt {a : String} {l : List String} (h : ∀ x ∈ l, a < x) :
    insertInto a l = a :: l := by
  cases l with
  | nil => rfl
  | cons b bs => simp [insertInto, h b (by simp)]

/-- Collecting an ascending list gives the list back. -/
theorem toList_ofList {l : List String} (h : l.Pairwise (· < ·)) : (ofList l).toList = l := by
  induction l with
  | nil => rfl
  | cons b bs ih =>
      obtain ⟨hb, hbs⟩ := List.pairwise_cons.mp h
      have hcons : (ofList (b :: bs)).toList = insertInto b (ofList bs).toList := rfl
      rw [hcons, ih hbs, insertInto_of_lt hb]

/-- A set collected again is itself. -/
theorem ofList_toList (s : DagIds) : ofList s.toList = s := by
  have h := toList_ofList s.ascending
  cases hs : ofList s.toList
  cases s
  simp_all

end DagIds

end AccessGate
