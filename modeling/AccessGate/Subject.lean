/-
# Subjects

The identity on whose behalf a decision is made. Sign-in providers need not give
an id, so a subject always has a name and may have an id.
-/

namespace AccessGate

/-- Someone who acts: a display name and, if known, a stable id. -/
structure Subject where
  id : Option String
  name : String
  deriving DecidableEq, Repr

namespace Subject

/-- A subject with an id and a name. -/
def withId (id name : String) : Subject :=
  ⟨some id, name⟩

/-- A subject that has no id. -/
def withoutId (name : String) : Subject :=
  ⟨none, name⟩

/-- The id, unless it is missing or empty. -/
def knownId (s : Subject) : Option String :=
  s.id.filter (· ≠ "")

end Subject

end AccessGate
