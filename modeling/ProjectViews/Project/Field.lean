/-
The attributes of a project that a view can show, filter by or order by.
-/
import ProjectViews.Json.Record
import ProjectViews.Text.Blank
import ProjectViews.Text.Caseless

namespace ProjectViews

/-- An attribute of a project. -/
inductive Field where
  | name
  | description
  | status
  | ownerUsername
  | ownerFullName
  | ownerEmail
  | ownerOrganization
  | dateModified
  | dateDeployed
  | sector
  | countries
  | languages
  | submissions
deriving DecidableEq, Repr, Inhabited

namespace Field

/-- All attributes, in their fixed order. -/
def all : List Field :=
  [name, description, status, ownerUsername, ownerFullName, ownerEmail, ownerOrganization,
   dateModified, dateDeployed, sector, countries, languages, submissions]

/-- Every attribute is listed. -/
theorem mem_all (f : Field) : f ∈ all := by cases f <;> decide

/-- The name of an attribute, as settings and people write it. -/
def text : Field → String
  | name => "name"
  | description => "description"
  | status => "status"
  | ownerUsername => "ownerUsername"
  | ownerFullName => "ownerFullName"
  | ownerEmail => "ownerEmail"
  | ownerOrganization => "ownerOrganization"
  | dateModified => "dateModified"
  | dateDeployed => "dateDeployed"
  | sector => "sector"
  | countries => "countries"
  | languages => "languages"
  | submissions => "submissions"

/-- The attribute with exactly this name. -/
def ofText? (s : String) : Option Field := all.find? fun f => f.text == s

/-- The attribute that a person means: blanks around the name and the case of its
letters do not matter. -/
def parse? (s : String) : Option Field :=
  all.find? fun f => Text.sameLetters f.text (Text.trim s)

/-- Reading an attribute from JSON. -/
def ofTree? : Json.Tree → Option Field := Json.variant? ofText?

/-- An attribute as JSON. -/
def toTree (f : Field) : Json.Tree := .text f.text

end Field

end ProjectViews
