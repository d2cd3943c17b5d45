/-
The table: a snapshot as tab-separated text.

The first line holds the headings of the visible fields, with a star behind those that
are filtered by; then there is one line for each row, and a last line says how many
projects there are.  A text stands as it is, a list is its items with commas between
them, null is nothing, and every other value is its JSON text.
-/
import ProjectViews.Text.Split
import ProjectViews.View.State

namespace ProjectViews

namespace Table

mutual

/-- A value as the text of a cell. -/
def formatValue : Json → String
  | .null => ""
  | .string s => s
  | .array items => Text.join ", " (formatItems items)
  | .bool b => Json.print (.bool b)
  | .int i => Json.print (.int i)
  | .double x => Json.print (.double x)
  | .object members => Json.print (.object members)

/-- The items of a list as texts. -/
def formatItems : List Json → List String
  | [] => []
  | j :: rest => formatValue j :: formatItems rest

end

/-- A value that may be missing as the text of a cell. -/
def format (j : Option Json) : String :=
  match j with
  | some j => formatValue j
  | none => ""

/-- The definitions of the visible fields that have one. -/
def columns (r : Registry) (s : Snapshot) : List FieldDefinition :=
  s.visibleFields.filterMap r.get?

/-- The heading of a column. -/
def heading (s : Snapshot) (d : FieldDefinition) : String :=
  if s.highlightedFields.contains d.field then d.label ++ "*" else d.label

/-- The cell of a row in a column.  The name of a project is not among its values. -/
def cell (row : Row) (d : FieldDefinition) : String :=
  match d.field with
  | .name => row.name
  | _ => format (row.valueAt d.valuePath)

/-- A line: a first cell and the cells joined by tabs. -/
def line (first : String) (cells : List String) : String :=
  first ++ "\t" ++ Text.join "\t" cells ++ "\n"

/-- The line of the headings. -/
def header (r : Registry) (s : Snapshot) : String :=
  line "uid" ((columns r s).map (heading s))

/-- The line of a row. -/
def rowLine (r : Registry) (s : Snapshot) (row : Row) : String :=
  line row.uid ((columns r s).map (cell row))

/-- The last line. -/
def footer (s : Snapshot) : String :=
  if !s.isFirstLoadComplete then "(projects did not load)\n"
  else if s.hasMorePages then
    Number.write s.rows.length ++ " projects shown, more available\n"
  else Number.write s.rows.length ++ " projects\n"

/-- The lines of a list, one after the other. -/
def concat : List String → String
  | [] => ""
  | l :: rest => l ++ concat rest

/-- A snapshot as a table. -/
def render (r : Registry) (s : Snapshot) : String :=
  header r s ++ concat (s.rows.map (rowLine r s)) ++ footer s

end Table

end ProjectViews
