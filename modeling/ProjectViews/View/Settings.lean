/-
View settings: what a view remembers from one session to the next.

They are kept as JSON text.  Visible fields and an order that are not remembered are
left out of it; filters are always written.
-/
import ProjectViews.Project.Filter
import ProjectViews.Project.Order

namespace ProjectViews

/-- What a view remembers from one session to the next. -/
structure ViewSettings where
  fields : Option (List Field)
  filters : List Filter
  order : Option Order
deriving DecidableEq, Repr, Inhabited

namespace ViewSettings

/-- Reading settings from JSON. -/
def ofTree? (t : Json.Tree) : Option ViewSettings := do
  let f ← Json.fields? ["fields", "filters", "order"] t
  let fields ← Json.optional (Json.list? Field.ofTree?) (f "fields")
  let filters ← Json.orElse [] (Json.list? Filter.ofTree?) (f "filters")
  let order ← Json.optional Order.ofTree? (f "order")
  pure ⟨fields, filters, order⟩

/-- Settings as JSON. -/
def toTree (s : ViewSettings) : Json.Tree :=
  .record
    ((match s.fields with
        | some fields => [("fields", .array (fields.map Field.toTree))]
        | none => [])
      ++ [("filters", .array (s.filters.map Filter.toTree))]
      ++ match s.order with
        | some order => [("order", order.toTree)]
        | none => [])

/-- Settings as JSON text. -/
def print (s : ViewSettings) : String := s.toTree.print

/-- Reading settings from JSON text. -/
def parse (text : String) : Option ViewSettings := (Json.Tree.parse text).bind ofTree?

end ViewSettings

end ProjectViews
