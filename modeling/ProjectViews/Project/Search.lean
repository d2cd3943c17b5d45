/-
The search that a view asks the server for.

Each filter that asks something is one fragment: the name the server filters by, a
colon and what is asked, after `NOT` when it is denied.  A text to compare with stands
in quotes, with a backslash before every quote and backslash of its own.  The
fragments are joined by `AND`, and so is the base query of the view, with parentheses
around both sides when both are there.
-/
import ProjectViews.Project.Filter
import ProjectViews.Project.Registry
import ProjectViews.Text.Split

namespace ProjectViews

namespace Search

/-- A character inside quotes. -/
def escape (c : Char) : List Char :=
  if c = '\\' then ['\\', '\\'] else if c = '"' then ['\\', '"'] else [c]

/-- A text in quotes. -/
def quote (s : String) : String :=
  String.ofList ('"' :: (s.toList.flatMap escape ++ ['"']))

/-- What a condition asks of the name it is put to. -/
def ask (condition : Condition) (name value : String) : String :=
  match condition with
  | .contains => name ++ "__icontains:" ++ value
  | .doesNotContain => "NOT " ++ name ++ "__icontains:" ++ value
  | .is => name ++ "__iexact:" ++ value
  | .isNot => "NOT " ++ name ++ "__iexact:" ++ value
  | .startsWith => name ++ "__istartswith:" ++ value
  | .endsWith => name ++ "__iendswith:" ++ value
  | .isEmpty => name ++ ":\"\""
  | .isNotEmpty => "NOT " ++ name ++ ":\"\""
  | .isEmptyObject => name ++ ":\x7b\x7d"
  | .isNotEmptyObject => "NOT " ++ name ++ ":\x7b\x7d"

/-- The fragment of one filter: none for an inert filter and for an attribute that is
excluded or unknown. -/
def fragment? (r : Registry) (f : Filter) : Option String :=
  match r.get? f.field with
  | some d =>
    if d.isExcluded || f.isInert then none
    else some (ask f.condition d.filteringName
      (match f.value with
        | some s => quote s
        | none => ""))
  | none => none

/-- The fragments of a list of filters, in their order. -/
def fragments (r : Registry) (filters : List Filter) : List String :=
  filters.filterMap (fragment? r)

/-- The search for a base query and a list of filters. -/
def query (r : Registry) (base : String) (filters : List Filter) : String :=
  let asked := Text.join " AND " (fragments r filters)
  let base := Text.trim base
  if asked.isEmpty then base
  else if base.isEmpty then asked
  else "(" ++ base ++ ") AND (" ++ asked ++ ")"

/-- What the server is told to sort by. -/
def ordering (r : Registry) (order : Option Order) : Option String :=
  order.bind r.orderingParameter

end Search

end ProjectViews
