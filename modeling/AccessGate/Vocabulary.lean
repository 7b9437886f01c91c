/-
# Closed vocabularies

A vocabulary is a finite list of values, each with one spelling. Everything the
library reads by name (methods, resource kinds, DAG parts, system views, modes)
is one, so reading and spelling are defined once:

* `Vocabulary.ofName?` finds the value spelled exactly like a text;
* `Vocabulary.ofName?_eq_some` : what is found is spelled like the text;
* `Vocabulary.ofName?_name` : in a lawful vocabulary every value is found by its
  own spelling.
-/

namespace AccessGate

/-! ## Values and their spellings -/

/-- A finite list of values with one spelling each. -/
class Vocabulary (α : Type) where
  /-- Every value, in declaration order. -/
  all : List α
  /-- The spelling of a value. -/
  name : α → String

/-- A vocabulary that lists every value and spells no two of them alike. -/
class LawfulVocabulary (α : Type) [Vocabulary α] : Prop where
  /-- No value is left out. -/
  mem_all : ∀ a : α, a ∈ Vocabulary.all
  /-- A spelling names one value. -/
  name_injective : ∀ a b : α, Vocabulary.name a = Vocabulary.name b → a = b

namespace Vocabulary

variable {α : Type} [Vocabulary α]

/-- The value spelled exactly `s`. -/
def ofName? (s : String) : Option α :=
  all.find? fun a => name a == s

/-- A value that is found is spelled like the text it was found by. -/
theorem ofName?_eq_some {s : String} {a : α} (h : ofName? s = some a) : name a = s := by
  simpa using List.find?_some h

/-- Every value of a lawful vocabulary is found by its own spelling. -/
theorem ofName?_name [LawfulVocabulary α] (a : α) : ofName? (name a) = some a := by
  cases h : (ofName? (name a) : Option α) with
  | none =>
      have := List.find?_eq_none.mp h a (LawfulVocabulary.mem_all a)
      simp at this
  | some b =>
      rw [LawfulVocabulary.name_injective b a (ofName?_eq_some h)]

end Vocabulary

/-! ## Texts that name nothing -/

/-- The vocabularies whose values users write by hand. -/
inductive Category where
  | method
  | resource
  | dagPart
  | systemView
  deriving DecidableEq, Repr

/-- What a value of the vocabulary is called in a message. -/
def Category.noun : Category → String
  | .method => "resource method"
  | .resource => "resource kind"
  | .dagPart => "dag access entity"
  | .systemView => "access view"

/-- A text that is not a spelling of the vocabulary it was read in. -/
structure UnknownName where
  category : Category
  text : String
  deriving DecidableEq, Repr

/-- The message quotes the text as it was written. -/
def UnknownName.message (e : UnknownName) : String :=
  "unknown " ++ e.category.noun ++ " `" ++ e.text ++ "`"

end AccessGate
