/-
Pages: the envelope in which the server sends every list.
-/
import ProjectViews.Json.Record

namespace ProjectViews

/-- One page of a list, with the total count and the links to its neighbours. -/
structure Page (α : Type) where
  count : UInt64
  next : Option String
  previous : Option String
  results : List α
deriving Repr, Inhabited

namespace Page

/-- Reading a page from JSON.  Only the results must be there. -/
def ofTree? {α : Type} (item : Json.Tree → Option α) (t : Json.Tree) : Option (Page α) := do
  let f ← Json.fields? ["count", "next", "previous", "results"] t
  let count ← Json.orElse 0 Json.word? (f "count")
  let next ← Json.optional Json.string? (f "next")
  let previous ← Json.optional Json.string? (f "previous")
  let results ← Json.required (Json.list? item) (f "results")
  pure ⟨count, next, previous, results⟩

/-- A page as JSON. -/
def toTree {α : Type} (item : α → Json.Tree) (p : Page α) : Json.Tree :=
  .record
    [("count", Json.ofWord p.count),
     ("next", .orNull (p.next.map .text)),
     ("previous", .orNull (p.previous.map .text)),
     ("results", .array (p.results.map item))]

end Page

end ProjectViews
