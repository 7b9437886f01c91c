/-
# Reading YAML

`Yaml.read?` reads the document that a text begins with. A text of no document at all
is the empty scalar. A second document is refused; what follows the first one and is
no document is overlooked.

The fuel bounds the number of nested and successive values; there are never more of
them than tokens.
-/
import AccessGate.Yaml.Lexer

namespace AccessGate.Yaml

/-! ## Nodes -/

/-- Whether a key or the value of a key is left out in front of these tokens. -/
def isLeftOut : List Token → Bool
  | .key :: _ | .value :: _ | .blockEnd :: _ => true
  | _ => false

/-- Whether a value in a flow collection is left out in front of these tokens. -/
def isLeftOutInFlow : List Token → Bool
  | .comma :: _ | .mapClose :: _ | .listClose :: _ => true
  | _ => false

/-- Whether a value follows. -/
def isValue : List Token → Bool
  | .value :: _ => true
  | _ => false

/-- What follows the comma in front of an item that is not the first. -/
def afterComma? (isFirst : Bool) : List Token → Option (List Token)
  | .comma :: ts => if isFirst then some (.comma :: ts) else some ts
  | ts => if isFirst then some ts else none

mutual

/-- A value. Block collections may begin if `block`; the items of a list may stand in
the column of the map around them if `inMap`. -/
def node : (fuel : Nat) → (block inMap : Bool) → List Token → Option (Yaml × List Token)
  | 0, _, _, _ => none
  | _ + 1, _, _, .plain s :: ts => some (.plain s, ts)
  | _ + 1, _, _, .quoted s :: ts => some (.quoted s, ts)
  | fuel + 1, _, _, .listOpen :: ts => do
      let (items, ts) ← flowItems fuel true ts
      return (.list items, ts)
  | fuel + 1, _, _, .mapOpen :: ts => do
      let (pairs, ts) ← flowPairs fuel true ts
      return (← ofPairs? pairs, ts)
  | fuel + 1, true, _, .blockList :: ts => do
      match ← blockItems fuel ts with
      | (items, .blockEnd :: ts) => return (.list items, ts)
      | _ => none
  | fuel + 1, _, true, .dash :: ts => do
      let (items, ts) ← blockItems fuel (.dash :: ts)
      return (.list items, ts)
  | fuel + 1, true, _, .blockMap :: ts => do
      let (pairs, ts) ← blockPairs fuel ts
      return (← ofPairs? pairs, ts)
  | _ + 1, _, _, _ => none

/-- The items of a block list, up to where no dash follows. -/
def blockItems : (fuel : Nat) → List Token → Option (List Yaml × List Token)
  | 0, _ => none
  | fuel + 1, .dash :: ts => do
      let (item, ts) ← match ts with
        | .dash :: _ => some (nothing, ts)
        | _ => if isLeftOut ts then some (nothing, ts) else node fuel true false ts
      let (items, ts) ← blockItems fuel ts
      return (item :: items, ts)
  | _ + 1, ts => some ([], ts)

/-- The keys and values of a block map up to its end. -/
def blockPairs : (fuel : Nat) → List Token → Option (List (Yaml × Yaml) × List Token)
  | 0, _ => none
  | _ + 1, .blockEnd :: ts => some ([], ts)
  | fuel + 1, .value :: ts => blockPair fuel nothing (.value :: ts)
  | fuel + 1, .key :: ts => do
      if isLeftOut ts then blockPair fuel nothing ts
      else
        let (key, ts) ← node fuel true true ts
        blockPair fuel key ts
  | _ + 1, _ => none

/-- The value of a key in a block map, and what follows it. -/
def blockPair : (fuel : Nat) → Yaml → List Token → Option (List (Yaml × Yaml) × List Token)
  | 0, _, _ => none
  | fuel + 1, key, ts => do
      let (value, ts) ← match ts with
        | .value :: ts => if isLeftOut ts then some (nothing, ts) else node fuel true true ts
        | _ => some (nothing, ts)
      let (pairs, ts) ← blockPairs fuel ts
      return ((key, value) :: pairs, ts)

/-- The items of a flow list up to the closing bracket; commas stand between them. A
marked key with its value is an item too. -/
def flowItems : (fuel : Nat) → (isFirst : Bool) → List Token → Option (List Yaml × List Token)
  | 0, _, _ => none
  | _ + 1, _, .listClose :: ts => some ([], ts)
  | fuel + 1, isFirst, ts => do
      match ← afterComma? isFirst ts with
      | .listClose :: ts => return ([], ts)
      | .key :: ts =>
          let (key, ts) ← node fuel false false ts
          let (value, ts) ← flowValue fuel ts
          let (items, ts) ← flowItems fuel false ts
          return ((← ofPairs? [(key, value)]) :: items, ts)
      | ts =>
          let (item, ts) ← node fuel false false ts
          let (items, ts) ← flowItems fuel false ts
          return (item :: items, ts)

/-- The keys and values of a flow map up to the closing brace; commas stand between
them. -/
def flowPairs : (fuel : Nat) → (isFirst : Bool) → List Token →
    Option (List (Yaml × Yaml) × List Token)
  | 0, _, _ => none
  | _ + 1, _, .mapClose :: ts => some ([], ts)
  | fuel + 1, isFirst, ts => do
      match ← afterComma? isFirst ts with
      | .mapClose :: ts => return ([], ts)
      | .key :: ts =>
          let (key, ts) ← if isValue ts || isLeftOutInFlow ts then some (nothing, ts)
            else node fuel false false ts
          let (value, ts) ← flowValue fuel ts
          let (pairs, ts) ← flowPairs fuel false ts
          return ((key, value) :: pairs, ts)
      | ts =>
          let (key, ts) ← if isValue ts then some (nothing, ts) else node fuel false false ts
          let (value, ts) ← if isValue ts then flowValue fuel ts else some (nothing, ts)
          let (pairs, ts) ← flowPairs fuel false ts
          return ((key, value) :: pairs, ts)

/-- The value of a key in a flow collection. -/
def flowValue : (fuel : Nat) → List Token → Option (Yaml × List Token)
  | 0, _ => none
  | fuel + 1, .value :: ts =>
      if isLeftOutInFlow ts then some (nothing, ts) else node fuel false false ts
  | _ + 1, ts => some (nothing, ts)

end

/-! ## Documents -/

/-- The node of a document, behind the mark of its start if there is one. -/
def content (fuel : Nat) : List Token → Option (Yaml × List Token)
  | .documentStart :: ts =>
      match ts with
      | .documentStart :: _ | .documentEnd :: _ | .textEnd :: _ => some (nothing, ts)
      | _ => node fuel true false ts
  | ts => node fuel true false ts

/-- Whether another document begins: with the mark of its start, or right behind the
mark of the end of the one before. What begins no node is no document. -/
def beginsDocument (isMarkedOff : Bool) : List Token → Bool
  | .documentStart :: t :: _ =>
      t.beginsNode || t = .documentStart || t = .documentEnd || t = .textEnd
  | t :: _ => isMarkedOff && t.beginsNode
  | [] => false

/-- Whether a document may end in front of these tokens. -/
def mayEnd : List Token → Bool
  | .broken :: _ | [] => false
  | .documentEnd :: ts => !beginsDocument true (ts.dropWhile (· = .documentEnd))
  | ts => !beginsDocument false ts

/-- The value that a text begins with, given its tokens. -/
def ofTokens? (tokens : List Token) : Option Yaml :=
  match tokens.dropWhile (· = .documentEnd) with
  | .textEnd :: _ => some nothing
  | ts => do
      let (v, ts) ← content (2 * ts.length + 2) ts
      if mayEnd ts then return v else none

/-- The document that a text begins with; the empty scalar if there is none. -/
def read? (s : String) : Option Yaml :=
  ofTokens? (Token.ofText s)

end AccessGate.Yaml
