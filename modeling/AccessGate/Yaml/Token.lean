/-
# YAML tokens

A YAML text as a sequence of tokens. Block collections have tokens of their own where
their indentation starts and ends, so what comes after needs no columns. A text that
turns out to be none ends with `Token.broken`, behind the tokens that are certain by
then.
-/

namespace AccessGate.Yaml

/-- A token. -/
inductive Token where
  | plain (s : String)
  | quoted (s : String)
  | listOpen
  | listClose
  | mapOpen
  | mapClose
  | comma
  /-- A block list starts; `blockEnd` ends it. -/
  | blockList
  /-- A block map starts; `blockEnd` ends it. -/
  | blockMap
  | blockEnd
  /-- The dash of an item. -/
  | dash
  /-- A key follows. -/
  | key
  /-- The colon in front of a value. -/
  | value
  | documentStart
  | documentEnd
  | textEnd
  /-- The text goes on in a way that YAML does not. -/
  | broken
  deriving DecidableEq, Repr

namespace Token

/-- Whether a token begins a node, given whether block collections may. -/
def beginsNode : Token → Bool
  | plain _ | quoted _ | listOpen | mapOpen | blockList | blockMap => true
  | _ => false

end Token

end AccessGate.Yaml
