/-
# JSON values

A value as its text spells it: members of an object are kept in order and may
repeat, and a number is an integer only if it is written as one (`1.0`, `1e2` and
`-0` are not).

A string is not always a text: half of a surrogate pair can be written on its own, and
stands for no character. Such a string is kept as it is written.
-/

namespace AccessGate

/-- A JSON value. -/
inductive Json where
  | null
  | bool (b : Bool)
  /-- A number written as an integer. -/
  | int (i : Int)
  /-- Any other number. -/
  | real (literal : String)
  | text (s : String)
  /-- A string that is no text, or an object with a member named by one. -/
  | halved (literal : String)
  | list (items : List Json)
  | object (members : List (String × Json))
  deriving Repr, Inhabited

namespace Json

/-- A text, or `null` for none. -/
def optionalText : Option String → Json
  | some s => .text s
  | none => .null

/-- A written natural number. -/
def nat (n : Nat) : Json :=
  .int n

/-- The first member of an object under a name. -/
def member? (name : String) : Json → Option Json
  | .object ms => ms.lookup name
  | _ => none

mutual

/-- Whether every string in a value is a text. -/
def isSpelled : Json → Bool
  | .halved _ => false
  | .list vs => areSpelled vs
  | .object ms => membersSpelled ms
  | _ => true

/-- Whether every string in the items of a list is a text. -/
def areSpelled : List Json → Bool
  | [] => true
  | v :: vs => isSpelled v && areSpelled vs

/-- Whether every string in the members of an object is a text. -/
def membersSpelled : List (String × Json) → Bool
  | [] => true
  | (_, v) :: ms => isSpelled v && membersSpelled ms

end

end Json

end AccessGate
