/-
TOML documents: statements put together to a table.

A document is a list of statements.  A header opens a table, and the entries behind it
go there; those before the first header go into the document's own table.  A header in
double brackets opens one more table of a list of tables.  A document in which a name
is given twice, or a finished table is added to, means nothing.
-/
import ProjectViews.Toml.Value

namespace ProjectViews

namespace Toml

/-- A statement of a document.  Names with dots are given as their parts. -/
inductive Statement where
  | entry (names : List String) (value : Value)
  | header (names : List String)
  /-- A header in double brackets. -/
  | item (names : List String)
deriving Repr, Inhabited

/-- A document of which some statements have been read. -/
structure Draft where
  table : Entries
  /-- The way to the open table. -/
  place : List String
deriving Repr, Inhabited

/-- A document without statements. -/
def Draft.blank : Draft := ⟨[], []⟩

/-- Opens a table with a header of its own: a new one, or one that was only passed so
far. -/
def openTable (name : String) (es : Entries) : Option Entries :=
  match get? name es with
  | none => some (es ++ [(name, .table .header [])])
  | some (.table .passed inner) => some (replace name (.table .header inner) es)
  | some _ => none

/-- Opens one more table of a list of tables. -/
def openItem (name : String) (es : Entries) : Option Entries :=
  match get? name es with
  | none => some (es ++ [(name, .tables [[]])])
  | some (.tables items) => some (replace name (.tables (items ++ [[]])) es)
  | some _ => none

/-- Opens what stands at the end of a way with `act`, and notes the way. -/
def Draft.goTo (d : Draft) (act : String → Entries → Option Entries) (names : List String) :
    Option Draft := do
  let last ← names.getLast?
  let table ← change .passed (fun _ es => act last es) names.dropLast .header d.table
  pure ⟨table, names⟩

/-- A document after one more statement. -/
def Draft.add (d : Draft) : Statement → Option Draft
  | .entry names value => do
    let table ← change .passed (fun _ es => assign names value es) d.place .header d.table
    pure { d with table := table }
  | .header names => d.goTo openTable names
  | .item names => d.goTo openItem names

/-- The table that statements mean. -/
def assemble (statements : List Statement) : Option Entries :=
  (statements.foldlM Draft.add Draft.blank).map (·.table)

end Toml

end ProjectViews
