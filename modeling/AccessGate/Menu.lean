/-
# Menus

A menu is a forest of entries. Each entry is guarded by the custom view that
bears its name.
-/

namespace AccessGate

/-- A navigation entry with the entries below it. -/
inductive MenuItem where
  | mk (name label : String) (href : Option String) (children : List MenuItem)
  deriving Repr

namespace MenuItem

/-- The name of the custom view that guards the entry. -/
def name : MenuItem → String
  | mk n _ _ _ => n

/-- The text shown for the entry. -/
def label : MenuItem → String
  | mk _ l _ _ => l

/-- Where the entry leads. -/
def href : MenuItem → Option String
  | mk _ _ h _ => h

/-- The entries directly below. -/
def children : MenuItem → List MenuItem
  | mk _ _ _ cs => cs

/-- An entry that leads nowhere and has nothing below it. -/
def leaf (name label : String) : MenuItem :=
  mk name label none []

/-- The same entry above other children. -/
def withChildren : MenuItem → List MenuItem → MenuItem
  | mk n l h _, cs => mk n l h cs

@[simp]
theorem name_withChildren (item : MenuItem) (cs : List MenuItem) :
    (item.withChildren cs).name = item.name := by
  cases item
  rfl

@[simp]
theorem label_withChildren (item : MenuItem) (cs : List MenuItem) :
    (item.withChildren cs).label = item.label := by
  cases item
  rfl

@[simp]
theorem href_withChildren (item : MenuItem) (cs : List MenuItem) :
    (item.withChildren cs).href = item.href := by
  cases item
  rfl

@[simp]
theorem children_withChildren (item : MenuItem) (cs : List MenuItem) :
    (item.withChildren cs).children = cs := by
  cases item
  rfl

end MenuItem

end AccessGate
