/-
# Methods and actions

A `Method` is one of five verbs. An `Action` is what a custom view is asked
about: a method, or any other word, which a plugin may have defined.

* `SameUpToCase` compares texts without the case of ASCII letters;
* `Method.ofName?` reads a method exactly, `Method.parse` in any case;
* `Action.ofText` never fails and loses nothing (`Action.text_ofText`);
* an action read from a text is standard only if the text is a method's
  spelling in upper case;
* actions that were read from texts are equal when their texts are
  (`Action.eq_iff_text_eq`).
-/
import AccessGate.Vocabulary

namespace AccessGate

/-- Whether texts differ in the case of ASCII letters at most. -/
def SameUpToCase (s t : String) : Prop :=
  s.toList.map Char.toLower = t.toList.map Char.toLower
  deriving Decidable

/-! ## Methods -/

/-- What is attempted on a resource. -/
inductive Method where
  | get
  | post
  | put
  | delete
  | menu
  deriving DecidableEq, Repr

namespace Method

/-- The spelling of a method, in upper case. -/
def name : Method → String
  | .get => "GET"
  | .post => "POST"
  | .put => "PUT"
  | .delete => "DELETE"
  | .menu => "MENU"

instance : Vocabulary Method where
  all := [.get, .post, .put, .delete, .menu]
  name := name

instance : LawfulVocabulary Method where
  mem_all a := by cases a <;> simp [Vocabulary.all]
  name_injective a b := by cases a <;> cases b <;> simp [Vocabulary.name, name]

/-- The method spelled exactly `s`. -/
def ofName? (s : String) : Option Method :=
  Vocabulary.ofName? s

/-- The first method whose spelling differs from `s` in case at most. -/
def inAnyCase? (s : String) : Option Method :=
  Vocabulary.all.find? fun m => SameUpToCase m.name s

/-- The method spelled `s` in any case. -/
def parse (s : String) : Except UnknownName Method :=
  match inAnyCase? s with
  | some m => .ok m
  | none => .error ⟨.method, s⟩

end Method

/-! ## Actions -/

/-- What is attempted on a custom view. -/
inductive Action where
  | standard (method : Method)
  | named (word : String)
  deriving DecidableEq, Repr

namespace Action

/-- The word an action is written with. -/
def text : Action → String
  | .standard m => m.name
  | .named w => w

/-- Whether the action is one of the five methods. -/
def isStandard : Action → Bool
  | .standard _ => true
  | .named _ => false

/-- The action a word stands for: a method's exact spelling is that method, any
other word is kept as it is. -/
def ofText (s : String) : Action :=
  match Method.ofName? s with
  | some m => .standard m
  | none => .named s

/-- Reading an action loses nothing of its text. -/
theorem text_ofText (s : String) : (ofText s).text = s := by
  unfold ofText
  split
  · next m h => exact Vocabulary.ofName?_eq_some h
  · rfl

/-- Whether an action is the one that its text is read as. Only a method's spelling
kept as a word is not. -/
def IsRead (a : Action) : Prop :=
  ofText a.text = a

/-- Every method is read from its spelling. -/
theorem isRead_standard (m : Method) : (standard m).IsRead := by
  have hname : Method.ofName? (standard m).text = some m := Vocabulary.ofName?_name m
  rw [IsRead, ofText, hname]

/-- What was read from a text is read from its own. -/
theorem isRead_ofText (s : String) : (ofText s).IsRead := by
  rw [IsRead, text_ofText]

/-- Actions that were read are told apart by their texts. -/
theorem eq_iff_text_eq {a b : Action} (ha : a.IsRead) (hb : b.IsRead) :
    a = b ↔ a.text = b.text := by
  constructor
  · intro h
    rw [h]
  · intro h
    rw [← ha, ← hb, h]

end Action

end AccessGate
