/-
# Finding YAML tokens

`Token.ofText` finds the tokens of a text. A scalar or a flow collection is a key if a
colon follows it, which shows only later: it is remembered as a possible key, and the
tokens that begin a key and its map are put in front of it when the colon comes. What
may still become a key is not certain, should the text break off.

The lexer keeps the columns of the block collections that are open. The value of a key
also opens a column, one to the right of its map, which is no collection of its own.
-/
import AccessGate.Yaml.Scalar
import AccessGate.Yaml.Token

namespace AccessGate.Yaml

/-! ## State -/

/-- A token that becomes a key if a colon follows. -/
structure PossibleKey where
  /-- How many tokens are in front of it. -/
  token : Nat
  index : Nat
  line : Nat
  column : Nat
  /-- Whether nothing but a key can stand there. -/
  required : Bool
  deriving Repr

/-- An open column. -/
structure Indent where
  /-- The open column around it. -/
  outer : Int
  /-- Whether a block collection stands in it. -/
  isBlock : Bool
  deriving Repr

/-- A text that is read up to a position. -/
structure Lexer where
  cursor : Cursor
  tokens : Array Token := #[]
  /-- Whether a key without a mark may begin here. -/
  keyAllowed : Bool := true
  /-- The possible key of every open flow collection, the innermost first, and last the
  one outside of them all. -/
  keys : List (Option PossibleKey) := [none]
  /-- The innermost open column. -/
  indent : Int := -1
  indents : List Indent := []
  /-- Where a colon need not be followed by space, because it follows a bracket or
  quote. -/
  adjacentAt : Option Nat := none
  /-- Whether a flow map with braces or with a marked key has begun. -/
  inMarkedMap : Bool := false
  /-- For every open flow list, the innermost first, the flow level of the map without
  braces that its current item is, if it is one. -/
  itemMaps : List (Option Nat) := []

/-- How many characters a key has at most. -/
def maxKeyLength : Nat :=
  1024

namespace Lexer

/-- How many flow collections are open. -/
def flowLevel (l : Lexer) : Nat :=
  l.keys.length - 1

/-- Whether a flow collection is open. -/
def inFlow (l : Lexer) : Bool :=
  l.flowLevel ≠ 0

/-- Whether a block collection stands in the innermost open column. -/
def atBlock (l : Lexer) : Bool :=
  match l.indents with
  | [] => false
  | i :: _ => i.isBlock

/-- Whether the text is read to its end. -/
def isDone (l : Lexer) : Bool :=
  l.tokens.back? = some .textEnd

/-! ## Tokens -/

/-- The next token. -/
def add (l : Lexer) (t : Token) : Lexer :=
  { l with tokens := l.tokens.push t }

/-- A token in front of an earlier one. -/
def insert (l : Lexer) (position : Nat) (t : Token) : Lexer :=
  { l with tokens := l.tokens.insertIdxIfInBounds position t }

/-- Pass over what may stand between tokens. At the start of a line a key may begin. -/
def skip (l : Lexer) : Option Lexer := do
  let c ← if l.indents.isEmpty then l.cursor.skip 0 else l.cursor.skip l.indent
  return { l with cursor := c, keyAllowed := l.keyAllowed || (!l.inFlow && l.cursor.line < c.line) }

/-- Pass over blanks and a comment. -/
def skipInLine (l : Lexer) : Option Lexer := do
  return { l with cursor := (← l.cursor.skipInLine).cursor }

/-- Pass over an indicator. -/
def pass (l : Lexer) (length : Nat) : Lexer :=
  { l with cursor := l.cursor.past length (l.cursor.rest.drop length) }

/-! ## Possible keys -/

/-- Remember the next token as a possible key, if a key may begin here. -/
def saveKey (l : Lexer) : Lexer :=
  if l.keyAllowed then
    let c := l.cursor
    let required := !l.inFlow && l.atBlock && l.indent = c.column
    { l with keys := some ⟨l.tokens.size, c.index, c.line, c.column, required⟩ :: l.keys.tail }
  else l

/-- What was remembered last becomes no key. -/
def dropKey (l : Lexer) : Option Lexer :=
  match l.keys with
  | some k :: rest => if k.required then none else some { l with keys := none :: rest }
  | _ => some l

/-- Outside flow collections a key ends on its line, within its greatest length. -/
def dropStaleKey (l : Lexer) : Option Lexer :=
  match l.keys with
  | [some k] =>
      if k.line < l.cursor.line || k.index + maxKeyLength < l.cursor.index then l.dropKey
      else some l
  | _ => some l

/-! ## Columns -/

/-- Close the given columns that are to the right of `column`. -/
def closeFrom (column : Int) : List Indent → Lexer → Lexer
  | [], l => l
  | i :: outer, l =>
      if column < l.indent then
        let l := if i.isBlock then l.add .blockEnd else l
        closeFrom column outer { l with indent := i.outer, indents := outer }
      else l

/-- Close the columns to the right of `column`. Inside flow collections columns do not
matter. -/
def closeTo (l : Lexer) (column : Int) : Lexer :=
  if l.inFlow then l else closeFrom column l.indents l

/-- Leave the column of a key's value. -/
def leaveValueColumn (l : Lexer) : Lexer :=
  match l.indents with
  | [] => l
  | i :: outer => if i.isBlock then l else { l with indent := i.outer, indents := outer }

/-- Open the column of a key's value. -/
def openValueColumn (l : Lexer) : Lexer :=
  if !l.inFlow && l.atBlock then
    { l with indent := l.indent + 1, indents := ⟨l.indent, false⟩ :: l.indents }
  else l

/-- Open a block collection in a column, if it is to the right of the others. Its token
is put in front of an earlier one if a position is given. -/
def openBlock (l : Lexer) (column : Nat) (position : Option Nat) (t : Token) : Lexer :=
  if l.inFlow then l
  else
    let l := if l.indent ≤ column then l.leaveValueColumn else l
    if l.indent < column then
      let l := { l with indent := column, indents := ⟨l.indent, true⟩ :: l.indents }
      match position with
      | some n => l.insert n t
      | none => l.add t
    else l

/-! ## Flow collections -/

/-- A map without braces ends with the item that it is. -/
def endItemMap (l : Lexer) : Lexer :=
  match l.itemMaps with
  | some level :: outer =>
      if level = l.flowLevel then
        { l with inMarkedMap := false, itemMaps := none :: outer }.add .mapClose
      else l
  | _ => l

/-- An opening bracket. It may begin a key. -/
def openFlow (l : Lexer) (t : Token) : Option Lexer := do
  let l := l.saveKey.openValueColumn
  let l := { l with keys := none :: l.keys, keyAllowed := true }
  let l := if t = .mapOpen then { l with inMarkedMap := true }
    else { l with itemMaps := none :: l.itemMaps }
  return (← (l.pass 1).skipInLine).add t

/-- A closing bracket. -/
def closeFlow (l : Lexer) (t : Token) : Option Lexer := do
  if !l.inFlow then none
  let l ← l.dropKey
  let l := if t = .listClose then
      let l := l.endItemMap
      { l with itemMaps := l.itemMaps.tail }
    else l
  let l := { l with keys := l.keys.tail, keyAllowed := false }
  let l ← (l.pass 1).skipInLine
  let l := if l.inFlow then { l with adjacentAt := some l.cursor.index } else l
  return l.add t

/-- A comma. -/
def comma (l : Lexer) : Option Lexer := do
  let l := { (← l.dropKey) with keyAllowed := true }
  return (← (l.endItemMap.pass 1).skipInLine).add .comma

/-! ## Block collections -/

/-- A dash that is set off by space. It opens a block list if there is none in its
column. -/
def dash (l : Lexer) : Option Lexer := do
  if l.inFlow || !l.keyAllowed then none
  let l := (l.pass 1).openBlock l.cursor.column none .blockList
  let gap ← l.cursor.skipInLine
  let next := gap.cursor.rest
  if gap.hasTab && next.head? = some '-' && startsWithSpace next.tail then none
  let l := { l with cursor := gap.cursor }
  let l := if next.head? = some '\n' || startsWithFlowIndicator next then l.openValueColumn else l
  return { (← l.dropKey) with keyAllowed := true }.add .dash

/-- A question mark that is set off by space: a key follows. -/
def markedKey (l : Lexer) : Option Lexer := do
  if !l.inFlow && !l.keyAllowed then none
  let l := if l.inFlow then { l with inMarkedMap := true }
    else l.openBlock l.cursor.column none .blockMap
  let l ← l.dropKey
  let l := { l with keyAllowed := !l.inFlow }
  let l := l.pass 1
  if l.cursor.atEnd || l.cursor.rest.head? = some '\t' then none
  return (← l.skip).add .key

/-- A colon: the value of a key follows. What was remembered as a possible key becomes
one. -/
def value (l : Lexer) : Option Lexer := do
  let start := l.cursor
  let isItemMap := !l.itemMaps.isEmpty && !l.inMarkedMap
  let l := if isItemMap then { l with itemMaps := some l.flowLevel :: l.itemMaps.tail } else l
  let l := l.pass 1
  let l ← if l.cursor.rest.head? = some '\t' then do
      let gap ← l.cursor.skipInLine
      match gap.cursor.rest with
      | c :: _ =>
          if !gap.hasSpace && (c.isAlphanum || c = '_' || c = '-') then none
          else some { l with cursor := gap.cursor }
      | [] => some { l with cursor := gap.cursor }
    else some l
  match l.keys with
  | some k :: rest =>
      if isItemMap && k.line < start.line then none
      let l := l.insert k.token .key
      let l := if isItemMap then l.insert k.token .mapOpen else l
      let l := (l.openBlock k.column (some k.token) .blockMap).openValueColumn
      return { l with keys := none :: rest, keyAllowed := false }.add .value
  | _ =>
      let l := if isItemMap then l.add .mapOpen else l
      if !l.inFlow && !l.keyAllowed then none
      let l := (l.openBlock start.column none .blockMap).openValueColumn
      return { l with keyAllowed := !l.inFlow }.add .value

/-! ## Scalars -/

/-- A plain scalar. Inside a flow collection it has to stand to the right of the block
collection around that. -/
def plain (l : Lexer) : Option Lexer := do
  let l := l.saveKey.leaveValueColumn
  if l.inFlow && decide ((l.cursor.column : Int) ≤ l.indent) then none
  let (s, c) ← plainScalar? l.inFlow l.indent l.cursor
  return { l with cursor := c, keyAllowed := c.fresh }.add (.plain s)

/-- Whether a quoted scalar that began in a line may end here. -/
def mayEndQuoted (l : Lexer) (line : Nat) : Bool :=
  match l.cursor.rest with
  | [] => true
  | c :: _ =>
      c = '\n' || (l.inFlow && (c = ',' || c = ']' || c = '}' || c = ':')) ||
        (c = ':' && l.cursor.line = line)

/-- A quoted scalar. A colon may follow it at once. -/
def quoted (l : Lexer) : Option Lexer := do
  let line := l.cursor.line
  let l := { l.saveKey with keyAllowed := false }
  let (s, c) ← quotedScalar? l.inFlow l.indent l.cursor
  let l ← { l with cursor := c }.skipInLine
  if !l.mayEndQuoted line then none
  let l ← l.skip
  return { l with adjacentAt := some l.cursor.index }.add (.quoted s)

/-! ## Documents -/

/-- The mark of a document's start or end. Nothing but a comment follows the latter on
its line. -/
def documentMark (l : Lexer) (mark : Char) : Option Lexer := do
  let l ← (l.closeTo (-1)).dropKey
  let l := { l with keyAllowed := false }.pass 3
  if mark = '-' then return l.add .documentStart
  else
    let l ← (l.add .documentEnd).skipInLine
    if endsLine l.cursor.rest then return l else none

/-- The end of the text. -/
def finish (l : Lexer) : Option Lexer :=
  if l.keys.any fun k => k.any (·.required) then none
  else
    let l := { l with keys := l.keys.map fun _ => none }
    some ((l.closeTo (-1)).add .textEnd)

/-! ## All tokens -/

/-- The token that begins with a character, given what follows it. -/
def token (l : Lexer) (c : Char) (rest : List Char) : Option Lexer :=
  let spaced := startsWithSpace rest
  if c = '[' then l.openFlow .listOpen
  else if c = '{' then l.openFlow .mapOpen
  else if c = ']' then l.closeFlow .listClose
  else if c = '}' then l.closeFlow .mapClose
  else if c = ',' then l.comma
  else if c = '-' && spaced then l.dash
  else if c = '?' && spaced then l.markedKey
  else if c = ':' && spaced then l.value
  else if c = ':' && l.inFlow && l.adjacentAt = some l.cursor.index then l.value
  else if c = ':' && l.inFlow && startsWithFlowIndicator rest then
    if rest.head? = some '[' || rest.head? = some '{' then none else l.value
  else if c = '\'' || c = '"' then l.quoted
  else if ['&', '*', '!', '%', '@', '\x60'].contains c then none
  else if !l.inFlow && (c = '|' || c = '>') then none
  else l.plain

/-- Read up to the end of the next token. -/
def step (l : Lexer) : Option Lexer := do
  let l ← (← l.skip).dropStaleKey
  let l := l.closeTo l.cursor.column
  match l.cursor.rest with
  | [] => l.finish
  | c :: rest =>
      match l.cursor.mark? with
      | some (mark, _) => l.documentMark mark
      | none => l.token c rest

/-- The tokens of a text that breaks off here: those that have become certain. -/
def breakOff (l : Lexer) : List Token :=
  let certain := l.keys.foldl (fun n k => k.elim n (min n ·.token)) l.tokens.size
  l.tokens.toList.take certain ++ [.broken]

/-- The tokens of a text. Every step takes a character or ends the text, so there is at
most one step more than there are characters. -/
def run : (fuel : Nat) → Lexer → List Token
  | 0, l => l.breakOff
  | fuel + 1, l =>
      match l.dropStaleKey with
      | none => l.breakOff
      | some l =>
          match l.step with
          | none => l.breakOff
          | some l => if l.isDone then l.tokens.toList else run fuel l

end Lexer

/-- The tokens of a text. -/
def Token.ofText (s : String) : List Token :=
  let c := Cursor.ofText s
  Lexer.run (c.rest.length + 1) { cursor := c }

end AccessGate.Yaml
