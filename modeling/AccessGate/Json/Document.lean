/-
# Records in JSON

JSON as a format for records. Types are never converted: a number is no text, a
text is no number, and `null` is nothing but a missing value. A record is an
object, or the list of its members in declaration order; an enumeration value is
its name, or an object with that name as the only member and `null` under it.
-/
import AccessGate.Document
import AccessGate.Json.Basic

namespace AccessGate

namespace Json

/-- Whether a value is `null`. -/
def isNull : Json → Bool
  | .null => true
  | _ => false

/-- The text that a value is. -/
def text? : Json → Option String
  | .text s => some s
  | _ => none

/-- The integer that a value is. -/
def int? : Json → Option Int
  | .int i => some i
  | _ => none

/-- The natural number that a value is. -/
def nat? : Json → Option Nat
  | .int (.ofNat n) => some n
  | _ => none

/-- The enumeration name that a value gives. -/
def name? : Json → Option String
  | .text s => some s
  | .object [(s, .null)] => some s
  | _ => none

/-- The items of a list. -/
def items? : Json → Option (List Json)
  | .list vs => some vs
  | _ => none

/-- The members of a record. -/
def fields? (unknown : Unknown) (names : List String) : Json → Option (Fields Json)
  | .object ms => Fields.ofMembers? unknown names ms
  | .list vs => Fields.ofItems? names vs
  | _ => none

instance : Document Json where
  isNull := isNull
  text? := text?
  int? := int?
  nat? := nat?
  name? := name?
  items? := items?
  fields? := fields?

end Json

end AccessGate
