/-
Phrases: attributes, filters and orders as people type them.

An attribute is typed as its name.  A filter is typed as `FIELD:CONDITION` or
`FIELD:CONDITION:VALUE`, and the value may hold colons of its own.  An order is typed
as a name, with a minus sign in front of it for the descending direction.  What cannot
be meant is refused with the first thing that is wrong with it, from left to right.
-/
import ProjectViews.Project.Filter
import ProjectViews.Project.Registry
import ProjectViews.Text.Split

namespace ProjectViews

namespace Phrase

/-- What can be wrong with a phrase. -/
inductive Problem where
  | unknownField (typed : String)
  | excludedField (field : Field)
  | missingCondition (typed : String)
  | unknownCondition (typed : String)
  | missingValue (condition : String)
  | unorderableField (field : Field)
deriving DecidableEq, Repr, Inhabited

/-- A text between single quotes. -/
def quoted (s : String) : String := "'" ++ s ++ "'"

/-- A problem in words. -/
def Problem.message : Problem → String
  | unknownField typed => "unknown field " ++ quoted typed
  | excludedField field => "field " ++ quoted field.text ++ " cannot be filtered on"
  | missingCondition typed => "filter " ++ quoted typed ++ " is missing a condition"
  | unknownCondition typed => "unknown filter condition " ++ quoted typed
  | missingValue condition => "filter condition " ++ quoted condition ++ " needs a value"
  | unorderableField field => "field " ++ quoted field.text ++ " is not orderable"

/-- The attribute that a phrase means. -/
def field (typed : String) : Except Problem Field :=
  match Field.parse? typed with
  | some f => .ok f
  | none => .error (.unknownField typed)

/-- A text up to its first colon, and what follows the colon when there is one. -/
def atColon (typed : String) : String × Option String :=
  match Text.cutAt ":" typed with
  | some (front, rest) => (front, some rest)
  | none => (typed, none)

/-- The filter on an attribute that the rest of a phrase means. -/
def condition (f : Field) (typed : String) : Except Problem Filter :=
  let (name, value) := atColon typed
  match Condition.parse? name with
  | none => .error (.unknownCondition name)
  | some c =>
    let filter : Filter := ⟨f, c, value⟩
    if filter.isInert then .error (.missingValue name) else .ok filter

/-- The filter that a phrase means. -/
def filter (r : Registry) (typed : String) : Except Problem Filter := do
  let (name, rest) := atColon typed
  let f ← field name
  if r.isExcluded f then .error (.excludedField f)
  else
    match rest with
    | none => .error (.missingCondition typed)
    | some rest => condition f rest

/-- The order that a phrase means. -/
def order (r : Registry) (typed : String) : Except Problem Order := do
  let typed := Text.trim typed
  let (direction, name) := match Text.afterStart? "-" typed with
    | some name => (Direction.descending, name)
    | none => (Direction.ascending, typed)
  let f ← field name
  if r.isOrderable f then .ok ⟨f, direction⟩ else .error (.unorderableField f)

end Phrase

end ProjectViews
