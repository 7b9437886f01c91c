/-
# Spellings

A text is read in one of two ways. Most values are found by their exact spelling; so is the
method that an action may be, while every other word stays the action it is. The method of a
question about records is found by its spelling in any case, where only the case of ASCII
letters is let pass.

* `Vocabulary.ofName?_eq_some_iff` : a value is found by its spelling and by no other text;
* `sameUpToCase_iff` : texts differ in the case of ASCII letters at most if their capitals agree;
* `Method.parse_eq_ok_iff` : a method is read from its spellings in any case;
* `Action.ofText_eq_iff` : an action is read from its own text, and is a method if and only if
  this is the exact spelling of one.
-/
import AccessGate.Method
import AccessGate.Resource
import Mathlib

namespace AccessGate

/-! ## Exact spellings -/

namespace Vocabulary

variable {α : Type} [Vocabulary α] [LawfulVocabulary α] {s : String}

/-- A value is found by its spelling and by no other text. -/
theorem ofName?_eq_some_iff {a : α} : ofName? s = some a ↔ name a = s := by
  constructor
  · exact ofName?_eq_some
  · rintro rfl
    exact ofName?_name a

/-- Nothing is found by a text that is no spelling. -/
theorem ofName?_eq_none_iff : (ofName? s : Option α) = none ↔ ∀ a : α, name a ≠ s := by
  simp only [Option.eq_none_iff_forall_ne_some, ne_eq, ofName?_eq_some_iff]

end Vocabulary

namespace SystemView

variable {s : String}

/-- A system view is read from its spelling. -/
theorem parse_eq_ok_iff {v : SystemView} : parse s = .ok v ↔ v.name = s := by
  have hfound : Vocabulary.ofName? s = some v ↔ v.name = s := Vocabulary.ofName?_eq_some_iff
  rw [← hfound, parse]
  cases (Vocabulary.ofName? s : Option SystemView) <;> simp

/-- What is no spelling of one is refused, and quoted. -/
theorem parse_eq_error_iff {e : UnknownName} :
    parse s = .error e ↔ e = ⟨.systemView, s⟩ ∧ ∀ v : SystemView, v.name ≠ s := by
  have hnone : (Vocabulary.ofName? s : Option SystemView) = none ↔ ∀ v : SystemView, v.name ≠ s :=
    Vocabulary.ofName?_eq_none_iff
  rw [← hnone, parse]
  cases (Vocabulary.ofName? s : Option SystemView) <;> simp [eq_comm]

end SystemView

/-! ## Spellings in any case -/

theorem SameUpToCase.symm {s t : String} (h : SameUpToCase s t) : SameUpToCase t s :=
  Eq.symm h

/-- Texts differ in case at most if their capitals are the same. -/
theorem sameUpToCase_iff {s t : String} :
    SameUpToCase s t ↔ s.map Char.toUpper = t.map Char.toUpper := by
  rw [← String.toList_inj, String.toList_map, String.toList_map, SameUpToCase]
  constructor
  · intro hlower
    have hupper := congrArg (List.map Char.toUpper) hlower
    simpa only [List.map_map, Function.comp_def, Char.toUpper_toLower_eq_toUpper] using hupper
  · intro hupper
    have hlower := congrArg (List.map Char.toLower) hupper
    simpa only [List.map_map, Function.comp_def, Char.toLower_toUpper_eq_toLower] using hlower

namespace Method

variable {s : String}

/-- Methods are spelled in capitals. -/
theorem map_toUpper_name (m : Method) : m.name.map Char.toUpper = m.name := by
  -- the letters of a text can be evaluated, `String.map` itself cannot
  rw [← String.toList_inj, String.toList_map]
  cases m <;> decide

/-- So a text is a spelling of a method in some case if its capitals are the method's. -/
theorem sameUpToCase_name_iff {m : Method} :
    SameUpToCase s m.name ↔ m.name = s.map Char.toUpper := by
  rw [sameUpToCase_iff, map_toUpper_name, eq_comm]

/-- No text is a spelling of two methods, in whatever case. -/
theorem eq_of_sameUpToCase {m m' : Method} (h : SameUpToCase s m.name)
    (h' : SameUpToCase s m'.name) : m = m' := by
  rw [sameUpToCase_name_iff] at h h'
  exact LawfulVocabulary.name_injective m m' (h.trans h'.symm)

/-- The method that is found is the one of which the text is a spelling in some case. -/
theorem inAnyCase?_eq_some_iff {m : Method} : inAnyCase? s = some m ↔ SameUpToCase s m.name := by
  have hfound : ∀ m', inAnyCase? s = some m' → SameUpToCase s m'.name := by
    intro m' h
    have hsame : SameUpToCase m'.name s := by simpa using List.find?_some h
    exact hsame.symm
  constructor
  · exact hfound m
  · intro h
    cases hfirst : inAnyCase? s with
    | none =>
        have hnot := List.find?_eq_none.mp hfirst m (LawfulVocabulary.mem_all m)
        exact absurd (decide_eq_true h.symm) hnot
    | some m' => rw [eq_of_sameUpToCase (hfound m' hfirst) h]

/-- **A method is read from its spellings in any case**, and from no other text. -/
theorem parse_eq_ok_iff {m : Method} : parse s = .ok m ↔ SameUpToCase s m.name := by
  rw [← inAnyCase?_eq_some_iff, parse]
  cases inAnyCase? s <;> simp

/-- Small letters and capitals may be mixed. -/
example : parse "gEt" = .ok .get :=
  parse_eq_ok_iff.mpr (by decide)

/-- What is no spelling of one in any case is refused, and quoted as it was written. -/
theorem parse_eq_error_iff {e : UnknownName} :
    parse s = .error e ↔ e = ⟨.method, s⟩ ∧ ∀ m : Method, ¬SameUpToCase s m.name := by
  simp only [← inAnyCase?_eq_some_iff]
  rw [parse]
  cases inAnyCase? s <;> simp [eq_comm]

end Method

/-! ## Actions -/

namespace Action

variable {a : Action} {s : String}

/-- A word is read as itself if it is no method's spelling. -/
theorem isRead_named_iff {w : String} : (named w).IsRead ↔ ∀ m : Method, m.name ≠ w := by
  have hnone : Method.ofName? w = none ↔ ∀ m : Method, m.name ≠ w :=
    Vocabulary.ofName?_eq_none_iff
  rw [← hnone, IsRead, ofText, text]
  cases Method.ofName? w <;> simp

/-- An action is what its text is read as unless it is a method's spelling kept as a word. -/
theorem isRead_iff : a.IsRead ↔ (a.isStandard = true ↔ ∃ m : Method, m.name = a.text) := by
  cases a with
  | standard m => exact iff_of_true (isRead_standard m) (iff_of_true rfl ⟨m, rfl⟩)
  | named w =>
      rw [isRead_named_iff]
      simp [isStandard, text]

/-- **An action is read from its own text**, and is a method if and only if this is the exact
spelling of one. -/
theorem ofText_eq_iff :
    ofText s = a ↔ a.text = s ∧ (a.isStandard = true ↔ ∃ m : Method, m.name = s) := by
  constructor
  · rintro rfl
    exact ⟨text_ofText s, by simpa only [text_ofText] using isRead_iff.mp (isRead_ofText s)⟩
  · rintro ⟨rfl, hstandard⟩
    exact isRead_iff.mpr hstandard

end Action

end AccessGate
