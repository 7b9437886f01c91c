/-
# Menus of any depth

Entries of a menu stand inside each other, so they are read with a bound on how deep they may
stand. For a value at hand the bound is large enough, and any other that is large enough would
do: whatever is found inside a value is less deep than the value. So a menu entry is read like
any other record, and its children as menu entries in their turn.

* `Json.depth_lt_of_lookup` : a member of a record is less deep than the record;
* `MenuItem.read?_eq_ofJson?` : a larger bound makes no difference;
* `MenuItem.ofJson?_eq` : how a menu entry is read, without a bound.
-/
import AccessGate.Json.Model
import AccessGate.Proofs.Fields

namespace AccessGate

open Document

/-! ## Depth -/

namespace Json

variable {unknown : Unknown} {names : List String} {vs : List Json} {ms : List (String × Json)}
  {j v : Json} {fs : Fields Json} {name : String}

/-- An item is less deep than its list. -/
theorem depth_lt_of_mem_items (h : v ∈ vs) : v.depth < (list vs).depth := by
  have hle : v.depth ≤ depthOfItems vs := by
    induction vs with
    | nil => cases h
    | cons w vs ih =>
        rw [depthOfItems]
        rcases List.mem_cons.mp h with rfl | h
        · exact Nat.le_max_left _ _
        · exact Nat.le_trans (ih h) (Nat.le_max_right _ _)
  rw [depth]
  omega

/-- The value of a member is less deep than its object. -/
theorem depth_lt_of_mem_members (h : (name, v) ∈ ms) : v.depth < (object ms).depth := by
  have hle : v.depth ≤ depthOfMembers ms := by
    induction ms with
    | nil => cases h
    | cons m ms ih =>
        rw [depthOfMembers]
        rcases List.mem_cons.mp h with rfl | h
        · exact Nat.le_max_left _ _
        · exact Nat.le_trans (ih h) (Nat.le_max_right _ _)
  rw [depth]
  omega

/-- What is no container is no record. -/
theorem depth_pos_of_fields? (h : Json.fields? unknown names j = some fs) : 0 < j.depth := by
  cases j with
  | object ms => exact Nat.succ_pos _
  | list vs => exact Nat.succ_pos _
  | _ => cases h

/-- What is found under a name is less deep than the record. -/
theorem depth_lt_of_lookup (h : Json.fields? unknown names j = some fs)
    (hv : fs.lookup name = some v) : v.depth < j.depth := by
  obtain ⟨front, behind, rfl, -⟩ := List.lookup_eq_some_iff.mp hv
  cases j with
  | object ms =>
      obtain ⟨-, -, hfs⟩ := Fields.ofMembers?_eq_some_iff.mp h
      have hmem : (name, v) ∈ Fields.known names ms := by
        rw [← hfs]
        simp
      exact depth_lt_of_mem_members (Fields.mem_known.mp hmem).1
  | list vs =>
      obtain ⟨-, hfs⟩ := Option.ite_none_right_eq_some.mp h
      have hmem : (name, v) ∈ names.zip vs := by
        rw [Option.some.inj hfs]
        simp
      exact depth_lt_of_mem_items (List.of_mem_zip hmem).2
  | _ => cases h

/-- A list is read alike by readers that agree on all that is less deep. -/
theorem list?_congr {α : Type} {read read' : Json → Option α}
    (h : ∀ w : Json, w.depth < v.depth → read w = read' w) :
    Document.list? read v = list? read' v := by
  cases v with
  | list vs => exact mapM_congr fun w hw => h w (depth_lt_of_mem_items hw)
  | _ => rfl

end Json

/-! ## Reading without a bound -/

/-- A member with a default is read alike by readers that agree on it. -/
theorem Fields.orDefault_congr {δ α : Type} {name : String} {default : α}
    {read read' : δ → Option α} {fs : Fields δ} (h : ∀ d, fs.lookup name = some d → read d = read' d) :
    fs.orDefault name default read = fs.orDefault name default read' := by
  rw [orDefault, orDefault]
  cases hd : fs.lookup name with
  | none => rfl
  | some d => exact h d hd

namespace MenuItem

variable {bound bound' : Nat} {j : Json}

/-- An entry is read by reading its children. They are in a list, so the bound that is left for
each of them is smaller by two. -/
theorem read?_add_two (bound : Nat) (j : Json) :
    read? (bound + 2) j = do
      let fs ← fields? .ignored fieldNames j
      let name ← fs.required "name" text?
      let label ← fs.required "label" text?
      let href ← optional "href" text? fs
      let children ← fs.orDefault "children" [] (list? (read? bound))
      return mk name label href children :=
  rfl

/-- With a bound of one there is room for an entry, but not for the list of its children. -/
theorem read?_one (j : Json) :
    read? 1 j = do
      let fs ← fields? .ignored fieldNames j
      let name ← fs.required "name" text?
      let label ← fs.required "label" text?
      let href ← optional "href" text? fs
      let children ← fs.orDefault "children" [] fun _ => none
      return mk name label href children :=
  rfl

/-- What is no record is no entry, whatever the bound. -/
theorem read?_eq_none (h : (fields? .ignored fieldNames j : Option (Fields Json)) = none) :
    read? bound j = none := by
  match bound with
  | 0 => rfl
  | 1 => rw [read?_one, h]; rfl
  | bound + 2 => rw [read?_add_two, h]; rfl

/-- One bound is as good as another if both are large enough. -/
theorem read?_stable (h : j.depth < bound) (h' : j.depth < bound') :
    read? bound j = read? bound' j := by
  -- the children are read with a bound that is smaller by two, hence strong induction
  induction bound using Nat.strongRecOn generalizing bound' j with
  | ind bound ih =>
      cases hfs : (fields? .ignored fieldNames j : Option (Fields Json)) with
      | none => rw [read?_eq_none hfs, read?_eq_none hfs]
      | some fs =>
          have hpos : 0 < j.depth := Json.depth_pos_of_fields? hfs
          obtain ⟨b, rfl⟩ := Nat.exists_eq_add_of_le' (show 2 ≤ bound by omega)
          obtain ⟨b', rfl⟩ := Nat.exists_eq_add_of_le' (show 2 ≤ bound' by omega)
          have hchildren : ∀ d, fs.lookup "children" = some d →
              list? (read? b) d = list? (read? b') d := by
            intro d hd
            have hdepth : d.depth < j.depth := Json.depth_lt_of_lookup hfs hd
            exact Json.list?_congr fun v hv => ih b (by omega) (by omega) (by omega)
          rw [read?_add_two, read?_add_two, hfs]
          simp only [Option.bind_eq_bind, Option.bind_some, Fields.orDefault_congr hchildren]

/-- **A larger bound makes no difference.** -/
theorem read?_eq_ofJson? (h : j.depth < bound) : read? bound j = ofJson? j :=
  read?_stable h (Nat.lt_succ_self j.depth)

/-- **How a menu entry is read**: its children are menu entries in their turn. -/
theorem ofJson?_eq (j : Json) :
    ofJson? j = do
      let fs ← fields? .ignored fieldNames j
      let name ← fs.required "name" text?
      let label ← fs.required "label" text?
      let href ← optional "href" text? fs
      let children ← fs.orDefault "children" [] (list? ofJson?)
      return mk name label href children := by
  -- with a bound that leaves room for one more entry the children can be read to the end
  rw [← read?_eq_ofJson? (show j.depth < j.depth + 2 by omega), read?_add_two]
  cases hfs : (fields? .ignored fieldNames j : Option (Fields Json)) with
  | none => rfl
  | some fs =>
      have hchildren : ∀ d, fs.lookup "children" = some d →
          list? (read? j.depth) d = list? ofJson? d := by
        intro d hd
        have hdepth : d.depth < j.depth := Json.depth_lt_of_lookup hfs hd
        exact Json.list?_congr fun v hv => read?_eq_ofJson? (by omega)
      simp only [Option.bind_eq_bind, Option.bind_some, Fields.orDefault_congr hchildren]

end MenuItem

end AccessGate
