/-
Rows: one project as the server returned it.

A row has a uid and a name; whatever else the server sent is kept as it came, under
its own names.  A value is looked up by a path: when the whole path is itself the name
of an attribute that attribute is meant, and otherwise the path is a chain of names
joined by two underscores that is followed through nested objects.
-/
import ProjectViews.Json.Record
import ProjectViews.Text.Split

namespace ProjectViews

/-- One project as the server returned it. -/
structure Row where
  uid : String
  name : String
  values : List (String × Json)
deriving Repr, Inhabited

/-- A token that asks for the page after the one it came with. -/
structure Cursor where
  token : String
deriving DecidableEq, Repr, Inhabited

namespace Row

/-- A row with nothing but a uid and a name. -/
def bare (uid name : String) : Row := ⟨uid, name, []⟩

/-- The value that a chain of names leads to from a value. -/
def follow (j : Json) : List String → Option Json
  | [] => some j
  | name :: rest =>
    match j.get? name with
    | some k => follow k rest
    | none => none

/-- The value at a path. -/
def valueAt (r : Row) (path : String) : Option Json :=
  match Json.lookup? path r.values with
  | some j => some j
  | none => follow (.object r.values) (Text.split "__" path)

/-- The members of a row that are not its uid or its name. -/
def extraMembers (members : List (Option String × Json.Tree)) :
    List (Option String × Json.Tree) :=
  members.filter fun m => m.1 != some "uid" && m.1 != some "name"

/-- Reading a row from JSON, with at most `levels` arrays and objects open at any
place of it.  A row is always an object. -/
def ofTree? (levels : Nat) : Json.Tree → Option Row
  | .object members =>
    if Json.unambiguous ["uid", "name"] members then
      match Json.required Json.string? (Json.fieldsOf members "uid"),
        Json.orElse "" Json.string? (Json.fieldsOf members "name"),
        Json.read? levels (.object (extraMembers members)) with
      | some uid, some name, some (.object values) => some ⟨uid, name, values⟩
      | _, _, _ => none
    else none
  | _ => none

/-- A row as JSON. -/
def toTree (r : Row) : Json.Tree :=
  .object ((some "uid", .text r.uid) :: (some "name", .text r.name)
    :: Json.toMembers r.values)

/-- Reading a row from JSON text. -/
def parse? (s : String) : Option Row :=
  (Json.Tree.parse s).bind (ofTree? Json.nestingLimit)

end Row

end ProjectViews
