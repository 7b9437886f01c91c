/-
# Documents

Settings are read from two formats and requests from one of them. `Document` is
what a format has to offer for that: texts, integers, lists, enumeration names and
records. `Fields` is a record once its members are sorted out, each under its name
and at most once, and has the three ways a member can be asked for.

A record is refused if a known member is repeated. Unknown members are refused or
ignored, as the record's `Unknown` policy says.
-/
import AccessGate.Vocabulary

namespace AccessGate

/-! ## Records -/

/-- What becomes of members that a record does not know. -/
inductive Unknown where
  | ignored
  | refused
  deriving DecidableEq, Repr

/-- The known members of a record, each at most once. -/
abbrev Fields (δ : Type) :=
  List (String × δ)

namespace Fields

variable {δ α : Type}

/-- The known members of a record given by names. -/
def ofMembers? (unknown : Unknown) (names : List String) (ms : List (String × δ)) :
    Option (Fields δ) :=
  let known := ms.filter fun m => names.contains m.1
  if unknown = .refused ∧ known.length ≠ ms.length then none
  else if (known.map (·.1)).Nodup then some known
  else none

/-- The members of a record given by position. The last ones may be left off. -/
def ofItems? (names : List String) (items : List δ) : Option (Fields δ) :=
  if items.length ≤ names.length then some (names.zip items) else none

/-- A member that has to be there. -/
def required (name : String) (read : δ → Option α) (fs : Fields δ) : Option α :=
  (fs.lookup name).bind read

/-- A member with a default. -/
def orDefault (name : String) (default : α) (read : δ → Option α) (fs : Fields δ) : Option α :=
  match fs.lookup name with
  | none => some default
  | some d => read d

end Fields

/-! ## Formats -/

/-- A format that records can be read from. -/
class Document (δ : Type) where
  /-- Whether a value stands for no value. -/
  isNull : δ → Bool
  /-- The text that a value is. -/
  text? : δ → Option String
  /-- The integer that a value is. -/
  int? : δ → Option Int
  /-- The natural number that a value is. -/
  nat? : δ → Option Nat
  /-- The name that a value gives, where one of a list of names is expected. -/
  name? : δ → Option String
  /-- The items of a list. -/
  items? : δ → Option (List δ)
  /-- The members of a record with the given names. -/
  fields? : Unknown → List String → δ → Option (Fields δ)

namespace Document

variable {δ α : Type} [Document δ]

/-- A member that may be missing or null. -/
def optional (name : String) (read : δ → Option α) (fs : Fields δ) : Option (Option α) :=
  match fs.lookup name with
  | none => some none
  | some d => if isNull d then some none else (read d).map some

/-- A list of values that are all read alike. -/
def list? (read : δ → Option α) (d : δ) : Option (List α) :=
  (items? d).bind fun ds => ds.mapM read

/-- A value of a vocabulary, by its exact spelling. -/
def word? [Vocabulary α] (d : δ) : Option α :=
  (name? d).bind Vocabulary.ofName?

end Document

end AccessGate
