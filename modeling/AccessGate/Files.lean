/-
# Files

The directory a program runs in, as far as reading configuration needs it: files with
their texts, and the directories on the way to them. Of what lies outside, only the null
device is known; the rest is taken to hold directories only.
-/

namespace AccessGate

/-- The files below a directory: their paths, slashes between the parts, with their
texts. -/
structure Files where
  contents : List (String × String)
  deriving Repr

/-- What a path leads to. -/
inductive FileState where
  | absent
  /-- Something that has no text, such as a directory. -/
  | unreadable
  | text (s : String)
  deriving DecidableEq, Repr

namespace Files

/-- The parts of a path between its slashes. -/
def parts (path : String) : List String :=
  path.splitOn "/"

/-- The text of the file at exactly these parts. -/
def textAt? (fs : Files) (place : List String) : Option String :=
  fs.contents.findSome? fun (path, text) => if parts path = place then some text else none

/-- Whether some file lies below these parts. -/
def isDirectory (fs : Files) (place : List String) : Bool :=
  fs.contents.any fun (path, _) => place.isPrefixOf (parts path)

/-- Where the rest of a path leads from a directory below the root, or from outside.
Only directories lead further. -/
def walk (fs : Files) : (place : Option (List String)) → List String → FileState
  | _, [] => .unreadable
  | place, p :: rest =>
      if p = "" || p = "." then walk fs place rest
      else if p = ".." then
        match place with
        | some (q :: qs) => walk fs (some (q :: qs).dropLast) rest
        | _ => walk fs none rest
      else
        match place with
        | none => .absent
        | some place =>
            let next := place ++ [p]
            match fs.textAt? next with
            | some s => if rest = [] then .text s else .absent
            | none => if fs.isDirectory next then walk fs (some next) rest else .absent

/-- What is known below the root: the null device, which reads as empty. -/
def root : Files where
  contents := [("dev/null", "")]

/-- What a path leads to. The empty path leads nowhere; one that starts with a slash
begins at the root. -/
def lookup (fs : Files) (path : String) : FileState :=
  if path = "" then .absent
  else if path.startsWith "/" then root.walk (some []) (parts path)
  else fs.walk (some []) (parts path)

end Files

end AccessGate
