/-
The registry: what a view knows about each attribute.

A definition says how an attribute is called in a heading, under which names the
server filters and sorts by it, where its value lies in a project, and whether it may
be ordered by, is visible from the start or is excluded from the view altogether.  An
attribute may be defined more than once: the last definition is the one that counts,
and the earlier ones only appear in listings.  An attribute without a definition is
treated as excluded.
-/
import ProjectViews.Project.Order

namespace ProjectViews

/-- What a view knows about one attribute. -/
structure FieldDefinition where
  field : Field
  label : String
  /-- The name that the server filters by. -/
  filteringName : String
  /-- The name that the server sorts by, when it can. -/
  orderingName : Option String
  /-- Where the value lies in a project. -/
  valuePath : String
  isOrderable : Bool
  isDefaultVisible : Bool
  isExcluded : Bool
deriving DecidableEq, Repr, Inhabited

/-- Whether an attribute can be ordered by: it is meant to be, it is not excluded and
the server has a name for it. -/
def FieldDefinition.canOrder (d : FieldDefinition) : Bool :=
  d.isOrderable && !d.isExcluded && d.orderingName.isSome

/-- The definitions that a view works with. -/
structure Registry where
  definitions : List FieldDefinition
deriving DecidableEq, Repr, Inhabited

namespace Registry

/-- The definition of an attribute: the last one given. -/
def get? (r : Registry) (f : Field) : Option FieldDefinition :=
  r.definitions.reverse.find? fun d => d.field == f

/-- Whether an attribute is excluded, or not known at all. -/
def isExcluded (r : Registry) (f : Field) : Bool :=
  match r.get? f with
  | some d => d.isExcluded
  | none => true

/-- Whether an attribute can be ordered by. -/
def isOrderable (r : Registry) (f : Field) : Bool :=
  match r.get? f with
  | some d => d.canOrder
  | none => false

/-- The attributes that are visible from the start, in the order of the definitions. -/
def defaultVisibleFields (r : Registry) : List Field :=
  (r.definitions.filter fun d => d.isDefaultVisible && !d.isExcluded).map (·.field)

/-- The attributes that can be ordered by, in the order of the definitions. -/
def orderableFields (r : Registry) : List Field :=
  (r.definitions.filter (·.canOrder)).map (·.field)

/-- What the server is told to sort by. -/
def orderingParameter (r : Registry) (o : Order) : Option String :=
  match r.get? o.field with
  | some d =>
    if d.canOrder then d.orderingName.map fun name => o.direction.sign ++ name else none
  | none => none

/-- The attributes that the view of one's own projects can be ordered by. -/
def ownOrderable : List Field :=
  [.dateModified, .dateDeployed, .name, .ownerUsername, .status]

/-- The attributes that the view of one's own projects shows from the start. -/
def ownVisible : List Field :=
  [.dateModified, .dateDeployed, .name, .countries, .ownerUsername, .status, .submissions]

/-- The attributes that the view of one's own projects leaves out: all of these would
be one's own. -/
def ownExcluded : List Field := [.ownerFullName, .ownerEmail, .ownerOrganization]

/-- A definition for the view of one's own projects. -/
def own (field : Field) (label filteringName : String) (orderingName : Option String)
    (valuePath : String) : FieldDefinition where
  field := field
  label := label
  filteringName := filteringName
  orderingName := orderingName
  valuePath := valuePath
  isOrderable := ownOrderable.contains field
  isDefaultVisible := ownVisible.contains field
  isExcluded := ownExcluded.contains field

/-- The registry of the view of one's own projects. -/
def ownProjects : Registry where
  definitions :=
    [own .name "Project name" "name" (some "name") "name",
     own .description "Description" "settings__description" none "settings__description",
     own .status "Status" "_deployment_status" (some "_deployment_status") "deployment_status",
     own .ownerUsername "Owner" "owner__username" (some "owner__username") "owner__username",
     own .ownerFullName "Owner full name" "owner__extra_details__data__name"
       (some "owner__extra_details__data__name") "owner__name",
     own .ownerEmail "Owner email" "owner__email" (some "owner__email") "owner__email",
     own .ownerOrganization "Owner organization" "owner__extra_details__data__organization"
       (some "owner__extra_details__data__organization") "owner__organization",
     own .dateModified "Last modified" "date_modified__date" (some "date_modified")
       "date_modified",
     own .dateDeployed "Date deployed" "date_deployed__date" (some "date_deployed")
       "date_deployed",
     own .sector "Sector" "settings__sector" (some "settings__sector") "settings__sector",
     own .countries "Countries" "settings__country_codes[]" (some "settings__country_codes")
       "settings__country",
     own .languages "Languages" "summary__languages[]" (some "summary__languages")
       "summary__languages",
     own .submissions "Submissions" "deployment__submission_count"
       (some "deployment__submission_count") "deployment__submission_count"]

end Registry

/-- The identity of the view of one's own projects. -/
def ownViewUid : String := "kobo_my_projects"

/-- The search that every view of projects starts from. -/
def ownBaseQuery : String := "asset_type:survey"

end ProjectViews
