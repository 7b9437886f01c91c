/-
# YAML values

The part of YAML that configuration files use: block and flow collections of plain
and quoted scalars. A plain scalar is kept by its text, because what it stands for
depends on what is expected in its place; a quoted one is always that text.

Read as a document, a plain `~`, `null` or nothing at all stands for no value, for
an empty list and for an empty record. A map may take over the members of others,
named under the key `<<`; its own members come first.
-/
import AccessGate.Document
import AccessGate.Text.Space

namespace AccessGate

/-- A YAML value. -/
inductive Yaml where
  | plain (s : String)
  | quoted (s : String)
  | list (items : List Yaml)
  | map (members : List (String × Yaml))
  deriving Repr, Inhabited

namespace Yaml

/-- Nothing, where a value could stand. -/
def nothing : Yaml :=
  .plain ""

/-- Whether a plain text stands for no value. -/
def isNullText (s : String) : Bool :=
  s = "" || s = "~" || s.map Char.toLower = "null"

/-- Whether a value stands for no value. -/
def isNull : Yaml → Bool
  | .plain s => isNullText s
  | _ => false

/-- The text of a scalar, unless it stands for no value. -/
def text? : Yaml → Option String
  | .plain s => if isNullText s then none else some s
  | .quoted s => some s
  | _ => none

/-! ## Maps -/

/-- The text of a key. -/
def keyText? : Yaml → Option String
  | .plain s => some s
  | .quoted s => some s
  | _ => none

/-- Whether a key asks for the members of its value. -/
def isMergeKey : Yaml → Bool
  | .plain s => s = "<<"
  | _ => false

/-- The members that a value under a merge key offers: those of a map, or of all maps
in a list, the last one first. -/
def offered? : Yaml → Option (List (String × Yaml))
  | .map members => some members
  | .list items => do
      let offers ← items.reverse.mapM fun item =>
        match item with
        | .map members => some members
        | v => if v.isNull then some [] else none
      return offers.flatten
  | v => if v.isNull then some [] else none

/-- Members, and those of the offered ones whose names are not taken yet. -/
def takeOver (members offered : List (String × Yaml)) : List (String × Yaml) :=
  offered.foldl
    (fun taken m => if (taken.lookup m.1).isSome then taken else taken ++ [m]) members

/-- The map of some keys with their values. Of several merge keys the last one is
served first. -/
def ofPairs? (pairs : List (Yaml × Yaml)) : Option Yaml := do
  let own ← (pairs.filter fun p => !p.1.isMergeKey).mapM fun p => do
    return ((← keyText? p.1), p.2)
  let offers ← (pairs.filter fun p => p.1.isMergeKey).reverse.mapM fun p => offered? p.2
  return .map (takeOver own offers.flatten)

/-! ## Numbers -/

/-- The value of a digit, letters counting on from ten. -/
def digitValue? (c : Char) : Option Nat :=
  if c.isDigit then some (c.toNat - '0'.toNat)
  else if 'a' ≤ c ∧ c ≤ 'f' then some (c.toNat - 'a'.toNat + 10)
  else if 'A' ≤ c ∧ c ≤ 'F' then some (c.toNat - 'A'.toNat + 10)
  else none

/-- The number that digits denote in a base. Underscores may stand anywhere between
them; there has to be a digit. -/
def digits? (base : Nat) (cs : List Char) : Option Nat :=
  let ds := cs.filter (· ≠ '_')
  if ds = [] then none
  else ds.foldlM (fun n c => do
    let d ← digitValue? c
    if d < base then some (n * base + d) else none) 0

/-- The number that digits denote, in the base that they are marked with; without a
mark they are decimal. -/
def natural? : List Char → Option Nat
  | '0' :: 'x' :: ds | '0' :: 'X' :: ds => digits? 16 ds
  | '0' :: 'o' :: ds | '0' :: 'O' :: ds => digits? 8 ds
  | '0' :: 'b' :: ds | '0' :: 'B' :: ds => digits? 2 ds
  | ds => digits? 10 ds

/-- The characters of a scalar without white space around them. -/
def trimmed? (v : Yaml) : Option (List Char) :=
  (text? v).map fun s => Text.trim s.toList

/-- The integer that a scalar is, quoted or not: digits with or without a sign. -/
def int? (v : Yaml) : Option Int := do
  match ← trimmed? v with
  | '-' :: ds => return -(← natural? ds)
  | '+' :: ds => return ← natural? ds
  | ds => return ← natural? ds

/-- The natural number that a scalar is. It has no minus, not even before zero. -/
def nat? (v : Yaml) : Option Nat := do
  match ← trimmed? v with
  | '+' :: ds => natural? ds
  | ds => natural? ds

/-! ## Values as documents -/

/-- The name that a value gives: a text, or a single member with nothing under it. -/
def name? : Yaml → Option String
  | .map [(s, v)] => if v.isNull then some s else none
  | v => text? v

/-- The items of a list. -/
def items? : Yaml → Option (List Yaml)
  | .list vs => some vs
  | v => if v.isNull then some [] else none

/-- The members of a record. -/
def fields? (unknown : Unknown) (names : List String) : Yaml → Option (Fields Yaml)
  | .map ms => Fields.ofMembers? unknown names ms
  | v => if v.isNull then some [] else none

instance : Document Yaml where
  isNull := isNull
  text? := text?
  int? := int?
  nat? := nat?
  name? := name?
  items? := items?
  fields? := fields?

end Yaml

end AccessGate
