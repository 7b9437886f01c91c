/-
# Reading JSON text

A strict reader: no trailing input, no leading zeros, no control characters in
strings. It works on a list of characters and returns what it has read with the rest
of the input; `Json.read?` asks that nothing but blanks is left over. Half of a
surrogate pair is harmless where nobody looks at the string, so it is left to the
reader's callers; `Json.readSpelled?` is for those who want none.

The fuel of the recursive part is the length of the input, which is enough because
every value takes at least one character.
-/
import AccessGate.Json.Basic

namespace AccessGate.Json

/-! ## Blanks and digits -/

/-- The four characters that may stand between tokens. -/
def isBlank (c : Char) : Bool :=
  c = ' ' || c = '\t' || c = '\n' || c = '\r'

/-- The input without leading blanks. -/
def skipBlanks (cs : List Char) : List Char :=
  cs.dropWhile isBlank

/-- The number that a list of decimal digits denotes. -/
def ofDigits (ds : List Char) : Nat :=
  ds.foldl (fun n d => n * 10 + (d.toNat - '0'.toNat)) 0

/-- The value of a hexadecimal digit. -/
def hexDigit? (c : Char) : Option Nat :=
  if '0' ≤ c ∧ c ≤ '9' then some (c.toNat - '0'.toNat)
  else if 'a' ≤ c ∧ c ≤ 'f' then some (c.toNat - 'a'.toNat + 10)
  else if 'A' ≤ c ∧ c ≤ 'F' then some (c.toNat - 'A'.toNat + 10)
  else none

/-- The number that four hexadecimal digits denote. -/
def hexQuad? (a b c d : Char) : Option Nat := do
  let a ← hexDigit? a
  let b ← hexDigit? b
  let c ← hexDigit? c
  let d ← hexDigit? d
  return ((a * 16 + b) * 16 + c) * 16 + d

/-! ## Numbers -/

/-- Digits of which there must be at least one. -/
def someDigits? (cs : List Char) : Option (List Char × List Char) :=
  match cs.span Char.isDigit with
  | ([], _) => none
  | digits => some digits

/-- The digits before the point: one zero, or digits that start with another. -/
def wholePart? : List Char → Option (List Char × List Char)
  | '0' :: rest => some (['0'], rest)
  | cs => someDigits? cs

/-- A point with digits, if there is one. -/
def fraction? : List Char → Option (List Char × List Char)
  | '.' :: rest => (someDigits? rest).map fun (ds, rest) => ('.' :: ds, rest)
  | cs => some ([], cs)

/-- The sign of an exponent, if there is one. -/
def exponentSign : List Char → List Char × List Char
  | '+' :: rest => (['+'], rest)
  | '-' :: rest => (['-'], rest)
  | cs => ([], cs)

/-- An exponent, if there is one. -/
def exponent? : List Char → Option (List Char × List Char)
  | c :: rest =>
      if c = 'e' || c = 'E' then
        let (sign, rest) := exponentSign rest
        (someDigits? rest).map fun (ds, rest) => (c :: sign ++ ds, rest)
      else some ([], c :: rest)
  | [] => some ([], [])

/-- A number. It is an integer if it has neither fraction nor exponent and is not
`-0`. -/
def number? (cs : List Char) : Option (Json × List Char) := do
  let (sign, cs) := match cs with
    | '-' :: rest => (['-'], rest)
    | cs => ([], cs)
  let (whole, cs) ← wholePart? cs
  let (frac, cs) ← fraction? cs
  let (expo, cs) ← exponent? cs
  let n := ofDigits whole
  if frac ++ expo ≠ [] ∨ (sign ≠ [] ∧ n = 0) then
    return (.real (String.ofList (sign ++ whole ++ frac ++ expo)), cs)
  else if sign = [] then
    return (.int n, cs)
  else
    return (.int (-n), cs)

/-! ## Strings -/

/-- The character of a one-letter escape. -/
def simpleEscape? : Char → Option Char
  | '"' => some '"'
  | '\\' => some '\\'
  | '/' => some '/'
  | 'b' => some '\x08'
  | 'f' => some '\x0c'
  | 'n' => some '\n'
  | 'r' => some '\r'
  | 't' => some '\t'
  | _ => none

/-- The first half of a surrogate pair. -/
def isHighSurrogate (n : Nat) : Bool :=
  0xD800 ≤ n && n < 0xDC00

/-- The second half of a surrogate pair. -/
def isLowSurrogate (n : Nat) : Bool :=
  0xDC00 ≤ n && n < 0xE000

/-- The character that a surrogate pair stands for. -/
def ofSurrogates (hi lo : Nat) : Char :=
  Char.ofNat (0x10000 + (hi - 0xD800) * 0x400 + (lo - 0xDC00))

/-- What has been read of a string. -/
structure Reading where
  /-- The characters, the last one first; none once half a pair has stood alone. -/
  done : Option (List Char) := some []
  /-- The first half of a pair whose second half has to come next. -/
  half : Option Nat := none

namespace Reading

/-- The characters, if no half of a pair is left. -/
def finish (r : Reading) : Option (List Char) :=
  if r.half.isSome then none else r.done.map List.reverse

/-- One more character. -/
def character (r : Reading) (c : Char) : Reading :=
  { done := if r.half.isSome then none else r.done.map (c :: ·) }

/-- A character by its number, or half of a pair. -/
def code (r : Reading) (n : Nat) : Reading :=
  if isHighSurrogate n then
    { done := if r.half.isSome then none else r.done, half := some n }
  else if isLowSurrogate n then
    { done := r.half.bind fun half => r.done.map (ofSurrogates half n :: ·) }
  else r.character (Char.ofNat n)

end Reading

/-- The characters up to the closing quote, given after the opening one, on top of
those read before. Two numeric escapes that form a surrogate pair are one character;
with half of a pair on its own there are no characters to return. -/
def stringBody? (r : Reading) : List Char → Option (Option (List Char) × List Char)
  | [] => none
  | '"' :: rest => some (r.finish, rest)
  | '\\' :: 'u' :: a :: b :: c :: d :: rest =>
      match hexQuad? a b c d with
      | none => none
      | some n => stringBody? (r.code n) rest
  | '\\' :: e :: rest =>
      match simpleEscape? e with
      | none => none
      | some c => stringBody? (r.character c) rest
  | c :: rest =>
      if c.toNat < 0x20 || c = '\\' then none else stringBody? (r.character c) rest

/-- A string, given after the opening quote, if it is a text. -/
def string? (cs : List Char) : Option (Option String × List Char) :=
  (stringBody? {} cs).map fun (body, rest) => (body.map String.ofList, rest)

/-! ## Values -/

/-- A value, or what is written for it between two positions of the input. -/
def orWritten (start stop : List Char) : Option Json → Json
  | some v => v
  | none => .halved (String.ofList (start.take (start.length - stop.length)))

/-- The input after a fixed word. -/
def word? (w : String) (cs : List Char) : Option (List Char) :=
  if w.toList.isPrefixOf cs then some (cs.drop w.length) else none

mutual

/-- One value, with blanks before it. -/
def readValue? : Nat → List Char → Option (Json × List Char)
  | 0, _ => none
  | fuel + 1, cs =>
      match skipBlanks cs with
      | '"' :: rest =>
          (string? rest).map fun (s, stop) => (orWritten ('"' :: rest) stop (s.map .text), stop)
      | '[' :: rest =>
          match skipBlanks rest with
          | ']' :: rest => some (.list [], rest)
          | _ => (readItems? fuel rest).map fun (vs, rest) => (.list vs, rest)
      | '{' :: rest =>
          match skipBlanks rest with
          | '}' :: rest => some (.object [], rest)
          | _ =>
              (readMembers? fuel rest).map fun (ms, stop) =>
                (orWritten ('{' :: rest) stop (ms.map .object), stop)
      | 'n' :: rest => (word? "ull" rest).map fun rest => (.null, rest)
      | 't' :: rest => (word? "rue" rest).map fun rest => (.bool true, rest)
      | 'f' :: rest => (word? "alse" rest).map fun rest => (.bool false, rest)
      | cs => number? cs

/-- One or more values up to the closing bracket. -/
def readItems? : Nat → List Char → Option (List Json × List Char)
  | 0, _ => none
  | fuel + 1, cs => do
      let (v, rest) ← readValue? fuel cs
      match skipBlanks rest with
      | ',' :: rest =>
          let (vs, rest) ← readItems? fuel rest
          return (v :: vs, rest)
      | ']' :: rest => return ([v], rest)
      | _ => none

/-- One or more members up to the closing brace, if all their names are texts. -/
def readMembers? : Nat → List Char → Option (Option (List (String × Json)) × List Char)
  | 0, _ => none
  | fuel + 1, cs =>
      match skipBlanks cs with
      | '"' :: rest => do
          let (name, rest) ← string? rest
          match skipBlanks rest with
          | ':' :: rest =>
              let (v, rest) ← readValue? fuel rest
              let member := name.map fun name => (name, v)
              match skipBlanks rest with
              | ',' :: rest =>
                  let (ms, rest) ← readMembers? fuel rest
                  return (member.bind fun m => ms.map (m :: ·), rest)
              | '}' :: rest => return (member.map fun m => [m], rest)
              | _ => none
          | _ => none
      | _ => none

end

/-- The value that a text spells, if it is one value and nothing else. -/
def read? (s : String) : Option Json := do
  let cs := s.toList
  let (v, rest) ← readValue? (cs.length + 1) cs
  if skipBlanks rest = [] then some v else none

/-- The value that a text spells, if every string in it is a text. -/
def readSpelled? (s : String) : Option Json :=
  (read? s).filter isSpelled

end AccessGate.Json
