/-
Orders: the attribute by which projects are sorted, and the direction.
-/
import ProjectViews.Project.Field

namespace ProjectViews

/-- A direction of sorting. -/
inductive Direction where
  | ascending
  | descending
deriving DecidableEq, Repr, Inhabited

namespace Direction

/-- The name of a direction. -/
def text : Direction → String
  | ascending => "ascending"
  | descending => "descending"

/-- The direction with exactly this name. -/
def ofText? (s : String) : Option Direction :=
  [ascending, descending].find? fun d => d.text == s

/-- What the server wants in front of the name it sorts by. -/
def sign : Direction → String
  | ascending => ""
  | descending => "-"

/-- Reading a direction from JSON. -/
def ofTree? : Json.Tree → Option Direction := Json.variant? ofText?

end Direction

/-- An attribute to sort by, and the direction. -/
structure Order where
  field : Field
  direction : Direction
deriving DecidableEq, Repr, Inhabited

namespace Order

/-- Reading an order from JSON. -/
def ofTree? (t : Json.Tree) : Option Order := do
  let f ← Json.fields? ["fieldName", "direction"] t
  let field ← Json.required Field.ofTree? (f "fieldName")
  let direction ← Json.required Direction.ofTree? (f "direction")
  pure ⟨field, direction⟩

/-- An order as JSON. -/
def toTree (o : Order) : Json.Tree :=
  .record [("fieldName", o.field.toTree), ("direction", .text o.direction.text)]

end Order

end ProjectViews
