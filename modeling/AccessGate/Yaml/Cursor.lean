/-
# Positions in a YAML text

Layout is meaning in YAML, so a position is the rest of the text together with its
line, its column and whether anything but blanks stands before it on its line.

* `Cursor.skipInLine` passes over blanks and a comment, up to the end of the line;
* `Cursor.skip` passes over what may stand between two tokens, line ends included.
-/

namespace AccessGate.Yaml

/-! ## Characters -/

/-- The blanks within a line. -/
def isBlank (c : Char) : Bool :=
  c = ' ' || c = '\t'

/-- A blank or a line end. -/
def isSpace (c : Char) : Bool :=
  isBlank c || c = '\n'

/-- Whether a text is at its end or goes on with a blank or a line end. -/
def startsWithSpace : List Char → Bool
  | [] => true
  | c :: _ => isSpace c

/-- Whether a text is at its end or at the end of a line. -/
def endsLine : List Char → Bool
  | [] => true
  | c :: _ => c = '\n'

/-- The brackets and the comma of flow collections. -/
def isFlowIndicator (c : Char) : Bool :=
  c = ',' || c = '[' || c = ']' || c = '{' || c = '}'

/-- Whether a text goes on with a bracket or comma of a flow collection. -/
def startsWithFlowIndicator : List Char → Bool
  | [] => false
  | c :: _ => isFlowIndicator c

/-- The text with every line end written as a line feed. -/
def unifyLineEnds : List Char → List Char
  | '\r' :: '\n' :: rest => '\n' :: unifyLineEnds rest
  | '\r' :: rest => '\n' :: unifyLineEnds rest
  | c :: rest => c :: unifyLineEnds rest
  | [] => []

/-! ## Positions -/

/-- A position in a text. -/
structure Cursor where
  rest : List Char
  /-- How many characters are behind it. -/
  index : Nat := 0
  line : Nat := 0
  column : Nat := 0
  /-- Whether only blanks stand before it on its line. -/
  fresh : Bool := true
  deriving Repr

namespace Cursor

/-- The start of a text. A byte order mark is no part of the text, and neither is
anything from a null character on. -/
def ofText (s : String) : Cursor :=
  let cs := match s.toList with
    | '\uFEFF' :: cs => cs
    | cs => cs
  { rest := unifyLineEnds (cs.takeWhile (· ≠ '\x00')) }

/-- The position behind some characters of the line that are not blank. -/
def past (c : Cursor) (taken : Nat) (rest : List Char) : Cursor :=
  { c with rest, index := c.index + taken, column := c.column + taken, fresh := false }

/-- The position behind a blank, or behind a character of a comment. -/
def pastBlank (c : Cursor) (rest : List Char) : Cursor :=
  { c with rest, index := c.index + 1, column := c.column + 1 }

/-- The start of the next line. -/
def pastLine (c : Cursor) (rest : List Char) : Cursor :=
  { rest, index := c.index + 1, line := c.line + 1 }

/-- Whether nothing is left. -/
def atEnd (c : Cursor) : Bool :=
  c.rest.isEmpty

/-- The mark of a document's start or end that stands here: three dashes or three
dots that begin a line and are set off by space. -/
def mark? (c : Cursor) : Option (Char × List Char) :=
  match c.rest with
  | '-' :: '-' :: '-' :: rest =>
      if c.column = 0 && startsWithSpace rest then some ('-', rest) else none
  | '.' :: '.' :: '.' :: rest =>
      if c.column = 0 && startsWithSpace rest then some ('.', rest) else none
  | _ => none

/-- Whether a document starts or ends here. -/
def atMark (c : Cursor) : Bool :=
  c.mark?.isSome

/-! ## Gaps -/

/-- What stands between a token and the next one on its line. -/
structure LineGap where
  /-- Where the gap ends. -/
  cursor : Cursor
  hasTab : Bool
  hasSpace : Bool
  deriving Repr

/-- The rest of a gap in a line: whether it is inside a comment, and which blanks came
before. A comment has to be set off by a blank. -/
def skipInLineFrom (comment hasTab hasSpace : Bool) (c : Cursor) : List Char → Option LineGap
  | [] => some ⟨{ c with rest := [] }, hasTab, hasSpace⟩
  | ch :: rest =>
      if ch = '\n' then some ⟨{ c with rest := ch :: rest }, hasTab, hasSpace⟩
      else if comment then skipInLineFrom true hasTab hasSpace (c.pastBlank rest) rest
      else if ch = ' ' then skipInLineFrom false hasTab true (c.pastBlank rest) rest
      else if ch = '\t' then skipInLineFrom false true hasSpace (c.pastBlank rest) rest
      else if ch = '#' then
        if hasTab || hasSpace then skipInLineFrom true hasTab hasSpace (c.pastBlank rest) rest
        else none
      else some ⟨{ c with rest := ch :: rest }, hasTab, hasSpace⟩

/-- Pass over blanks and a comment. -/
def skipInLine (c : Cursor) : Option LineGap :=
  skipInLineFrom false false false c c.rest

/-- The rest of a gap between tokens: whether it is inside a comment, and whether a tab
stands in the line's indentation, in front of the column `indent`. -/
def skipFrom (indent : Int) (comment tabbed : Bool) (c : Cursor) : List Char → Option Cursor
  | [] => some { c with rest := [] }
  | ch :: rest =>
      if ch = '\n' then skipFrom indent false false (c.pastLine rest) rest
      else if comment then skipFrom indent true tabbed (c.pastBlank rest) rest
      else if ch = ' ' then skipFrom indent false tabbed (c.pastBlank rest) rest
      else if ch = '\t' then
        skipFrom indent false (tabbed || (c.fresh && decide (c.column < indent)))
          (c.pastBlank rest) rest
      else if ch = '#' then skipFrom indent true tabbed (c.pastBlank rest) rest
      else if tabbed then none
      else some { c with rest := ch :: rest }

/-- The next position with something on it; none if it is indented with tabs. -/
def skip (c : Cursor) (indent : Int) : Option Cursor :=
  skipFrom indent false false c c.rest

end Cursor

end AccessGate.Yaml
