/-
# YAML scalars

Plain, single-quoted and double-quoted texts. A text that goes on over several lines
is folded: blanks around a line end do not count, one line end is a space and each
further one is a line feed.

Lines that continue a text have to be indented, unless a flow collection is around
it. `indent` is the column of the block collection around the text.
-/
import AccessGate.Yaml.Basic
import AccessGate.Yaml.Cursor

namespace AccessGate.Yaml

/-! ## Gaps inside a text -/

/-- Blanks and line ends between two words of a text. -/
structure Gap where
  /-- The blanks before the first line end. -/
  blanks : List Char := []
  /-- Whether what follows is on a line of its own. -/
  newLine : Bool := false
  /-- Whether the gap has a line end that counts. -/
  broken : Bool := false
  /-- How many line ends follow the first one. -/
  breaks : Nat := 0
  deriving Repr

namespace Gap

/-- The gap with one more line end. -/
def lineEnd (g : Gap) : Gap :=
  if g.newLine then { g with breaks := g.breaks + 1 }
  else { g with blanks := [], newLine := true, broken := true }

/-- The gap with one more blank, which counts only within a line. -/
def blank (g : Gap) (ch : Char) : Gap :=
  if g.newLine then g else { g with blanks := g.blanks ++ [ch] }

/-- What a gap is folded to. -/
def text (g : Gap) : List Char :=
  if g.newLine then
    if g.broken && g.breaks = 0 then [' '] else List.replicate g.breaks '\n'
  else g.blanks

end Gap

/-! ## Plain scalars -/

/-- Whether a colon in front of `rest` ends a key. Within flow collections, a bracket
or comma may follow it at once. -/
def endsKey (flow : Bool) (rest : List Char) : Bool :=
  startsWithSpace rest || (flow && startsWithFlowIndicator rest)

/-- The word that a plain scalar goes on with. It ends at a space, at the end of a key
and, in flow collections, at a bracket or comma. -/
def plainWord (flow : Bool) : List Char → List Char
  | [] => []
  | c :: rest =>
      if isSpace c || (c = ':' && endsKey flow rest) || (flow && isFlowIndicator c) then []
      else c :: plainWord flow rest

/-- Whether a dash stands alone in front of a bracket or comma. -/
def isLoneDash : List Char → Bool
  | '-' :: rest => startsWithFlowIndicator rest
  | _ => false

/-- The rest of a gap inside a plain scalar. A line that begins with a tab in front of
the column `limit` must not go on with the text. -/
def plainGapFrom (limit : Int) (comment tabbed : Bool) (g : Gap) (c : Cursor) :
    List Char → Option (Gap × Cursor)
  | [] => some (g, { c with rest := [] })
  | ch :: rest =>
      if ch = '\n' then plainGapFrom limit false false g.lineEnd (c.pastLine rest) rest
      else if comment then plainGapFrom limit true tabbed g (c.pastBlank rest) rest
      else if isBlank ch then
        plainGapFrom limit false
          (tabbed || (g.newLine && ch = '\t' && decide (c.column < limit)))
          (g.blank ch) (c.pastBlank rest) rest
      else if tabbed then
        if ch = '#' then plainGapFrom limit true tabbed g (c.pastBlank rest) rest else none
      else some (g, { c with rest := ch :: rest })

/-- What is left of a plain scalar behind a gap. Every round takes a character, so
there are never more rounds than characters. -/
def plainFrom (flow : Bool) (limit : Int) : (fuel : Nat) → Gap → Cursor →
    Option (List Char × Cursor)
  | 0, _, _ => none
  | fuel + 1, g, c =>
      if c.atMark || c.rest.head? = some '#' then some ([], c)
      else if flow && isLoneDash c.rest then none
      else
        let word := plainWord flow c.rest
        let last := if word = [] then c else c.past word.length (c.rest.drop word.length)
        let taken := if word = [] then [] else g.text ++ word
        if last.atEnd || !startsWithSpace last.rest then some (taken, last)
        else do
          let (gap, next) ← plainGapFrom limit false false
            (if word = [] then g else {}) last last.rest
          if !flow && decide (next.column < limit) then return (taken, next)
          else
            let (more, last) ← plainFrom flow limit fuel gap next
            return (taken ++ more, last)

/-- A plain scalar and the position where it has turned out to be over. -/
def plainScalar? (flow : Bool) (indent : Int) (c : Cursor) : Option (String × Cursor) := do
  let (text, last) ← plainFrom flow (indent + 1) (c.rest.length + 1) { newLine := c.fresh } c
  if text = [] then none else return (String.ofList text, last)

/-! ## Escapes -/

/-- What is written by a one-letter escape. -/
def simpleEscape? : Char → Option Char
  | '0' => some '\x00'
  | 'a' => some '\x07'
  | 'b' => some '\x08'
  | 't' => some '\t'
  | '\t' => some '\t'
  | 'n' => some '\n'
  | 'v' => some '\x0b'
  | 'f' => some '\x0c'
  | 'r' => some '\r'
  | 'e' => some '\x1b'
  | ' ' => some ' '
  | '"' => some '"'
  | '/' => some '/'
  | '\\' => some '\\'
  | 'N' => some '\u0085'
  | '_' => some '\u00a0'
  | 'L' => some '\u2028'
  | 'P' => some '\u2029'
  | _ => none

/-- How many hexadecimal digits follow the letter of a numeric escape. -/
def escapeWidth? : Char → Option Nat
  | 'x' => some 2
  | 'u' => some 4
  | 'U' => some 8
  | _ => none

/-- The number that the next `width` characters denote in hexadecimal, and the rest. -/
def hexNumber? (width : Nat) (cs : List Char) : Option (Nat × List Char) :=
  if cs.length < width then none
  else do
    let n ← (cs.take width).foldlM (fun n c => do return n * 16 + (← digitValue? c)) 0
    return (n, cs.drop width)

/-- Whether a code is the first half of a pair that stands for one character. -/
def isHighHalf (n : Nat) : Bool :=
  0xD800 ≤ n && n ≤ 0xDBFF

/-- Whether a code is the second half of a pair. -/
def isLowHalf (n : Nat) : Bool :=
  0xDC00 ≤ n && n ≤ 0xDFFF

/-- The character that an escape writes, given what follows its backslash, and the
rest. A character may be written as two halves of four digits each. -/
def escape? : List Char → Option (Char × List Char)
  | [] => none
  | e :: rest =>
      match simpleEscape? e with
      | some c => some (c, rest)
      | none => do
          let (n, rest) ← hexNumber? (← escapeWidth? e) rest
          if n.isValidChar then return (Char.ofNat n, rest)
          else if e = 'u' && isHighHalf n then
            match rest with
            | '\\' :: 'u' :: rest =>
                let (low, rest) ← hexNumber? 4 rest
                if isLowHalf low then
                  return (Char.ofNat (0x10000 + (n - 0xD800) * 0x400 + (low - 0xDC00)), rest)
                else none
            | _ => none
          else none

/-! ## Quoted scalars -/

/-- The word that a quoted text goes on with, whether an escaped line end joins it with
what follows, and the position behind both. -/
def quotedWord (quote : Char) : (fuel : Nat) → Cursor → Option (List Char × Bool × Cursor)
  | 0, _ => none
  | fuel + 1, c =>
      match c.rest with
      | [] => some ([], false, c)
      | ch :: rest =>
          if isSpace ch then some ([], false, c)
          else if ch = quote then
            match quote, rest with
            | '\'', '\'' :: rest =>
                (quotedWord quote fuel (c.past 2 rest)).map fun (word, more) => (ch :: word, more)
            | _, _ => some ([], false, c)
          else if ch = '\\' && quote = '"' then
            match rest with
            | '\n' :: rest => some ([], true, (c.past 1 ('\n' :: rest)).pastLine rest)
            | _ => do
                let (written, left) ← escape? rest
                let (word, more) ← quotedWord quote fuel
                  (c.past (1 + (rest.length - left.length)) left)
                return (written :: word, more)
          else (quotedWord quote fuel (c.past 1 rest)).map fun (word, more) => (ch :: word, more)

/-- The rest of a gap inside a quoted text. A line must not be indented with tabs. -/
def quotedGapFrom (indent : Int) (g : Gap) (c : Cursor) : List Char → Option (Gap × Cursor)
  | [] => some (g, { c with rest := [] })
  | ch :: rest =>
      if ch = '\n' then quotedGapFrom indent g.lineEnd (c.pastLine rest) rest
      else if isBlank ch then
        if g.newLine && ch = '\t' && decide (c.column < indent) then none
        else quotedGapFrom indent (g.blank ch) (c.pastBlank rest) rest
      else some (g, { c with rest := ch :: rest })

/-- What is left of a quoted text, and the position behind its closing quote. Every
round takes a character, so there are never more rounds than characters. -/
def quotedFrom (flow : Bool) (indent : Int) (quote : Char) : (fuel : Nat) → Cursor →
    Option (List Char × Cursor)
  | 0, _ => none
  | fuel + 1, c =>
      if c.atMark || c.atEnd then none
      else do
        let (word, joined, c) ← quotedWord quote (c.rest.length + 1) c
        match c.rest with
        | [] => none
        | ch :: rest =>
            if ch = quote then return (word, c.past 1 rest)
            else
              let (g, c) ← quotedGapFrom indent { newLine := joined } c c.rest
              if g.broken && !flow && c.rest.head? ≠ some quote && decide (c.column ≤ indent) then
                none
              else
                let (more, c) ← quotedFrom flow indent quote fuel c
                return (word ++ g.text ++ more, c)

/-- A quoted scalar and the position behind it; `c` is at the opening quote. -/
def quotedScalar? (flow : Bool) (indent : Int) (c : Cursor) : Option (String × Cursor) :=
  match c.rest with
  | [] => none
  | quote :: rest => do
      let (text, last) ← quotedFrom flow indent quote (rest.length + 1) (c.past 1 rest)
      return (String.ofList text, last)

end AccessGate.Yaml
