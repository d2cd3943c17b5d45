/-
Filters: a condition on one attribute of a project.

Most conditions compare the attribute with a text and say nothing without one: such a
filter without a text, or with an empty one, is inert.  It is kept and shown, but it
asks nothing of the server.  The four conditions on presence need no text.
-/
import ProjectViews.Project.Field

namespace ProjectViews

/-- What a filter asks of an attribute. -/
inductive Condition where
  | contains
  | doesNotContain
  | is
  | isNot
  | startsWith
  | endsWith
  | isEmpty
  | isNotEmpty
  | isEmptyObject
  | isNotEmptyObject
deriving DecidableEq, Repr, Inhabited

namespace Condition

/-- All conditions, in their fixed order. -/
def all : List Condition :=
  [contains, doesNotContain, is, isNot, startsWith, endsWith, isEmpty, isNotEmpty,
   isEmptyObject, isNotEmptyObject]

/-- Every condition is listed. -/
theorem mem_all (c : Condition) : c ∈ all := by cases c <;> decide

/-- The name of a condition, as settings and people write it. -/
def text : Condition → String
  | contains => "contains"
  | doesNotContain => "doesNotContain"
  | is => "is"
  | isNot => "isNot"
  | startsWith => "startsWith"
  | endsWith => "endsWith"
  | isEmpty => "isEmpty"
  | isNotEmpty => "isNotEmpty"
  | isEmptyObject => "isEmptyObject"
  | isNotEmptyObject => "isNotEmptyObject"

/-- Whether a condition says nothing without a text to compare with. -/
def requiresValue : Condition → Bool
  | isEmpty | isNotEmpty | isEmptyObject | isNotEmptyObject => false
  | _ => true

/-- The condition with exactly this name. -/
def ofText? (s : String) : Option Condition := all.find? fun c => c.text == s

/-- The condition that a person means: blanks around the name and the case of its
letters do not matter. -/
def parse? (s : String) : Option Condition :=
  all.find? fun c => Text.sameLetters c.text (Text.trim s)

/-- Reading a condition from JSON. -/
def ofTree? : Json.Tree → Option Condition := Json.variant? ofText?

end Condition

/-- A condition on one attribute, with the text it compares with. -/
structure Filter where
  field : Field
  condition : Condition
  value : Option String
deriving DecidableEq, Repr, Inhabited

namespace Filter

/-- Whether a filter lacks the text that its condition needs. -/
def isInert (f : Filter) : Bool :=
  f.condition.requiresValue && match f.value with
    | none => true
    | some s => s.isEmpty

/-- Reading a filter from JSON. -/
def ofTree? (t : Json.Tree) : Option Filter := do
  let f ← Json.fields? ["fieldName", "condition", "value"] t
  let field ← Json.required Field.ofTree? (f "fieldName")
  let condition ← Json.required Condition.ofTree? (f "condition")
  let value ← Json.optional Json.string? (f "value")
  pure ⟨field, condition, value⟩

/-- A filter as JSON; an absent value is left out. -/
def toTree (f : Filter) : Json.Tree :=
  .record ([("fieldName", f.field.toTree), ("condition", .text f.condition.text)]
    ++ match f.value with
      | some s => [("value", .text s)]
      | none => [])

end Filter

end ProjectViews
