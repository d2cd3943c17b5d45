/-
The configuration: which server, which database, and how to ask.

Every setting has a default.  A TOML file may change it, and the environment may change
it again.  A file counts as a whole or not at all: one that is not TOML, or in which a
setting has a value of the wrong kind, changes nothing.  A variable of the environment
that makes no sense changes nothing either.
-/
import ProjectViews.Number.Typed
import ProjectViews.Storage.Address
import ProjectViews.Text.Caseless
import ProjectViews.Toml.Reader

namespace ProjectViews

/-- The settings that the program starts with. -/
structure Config where
  serverUrl : String
  /-- The database, as a person writes it. -/
  databaseUrl : String
  /-- How many projects to ask for at a time. -/
  pageSize : UInt32
  billingEnabled : Bool
  organizationId : Option String
deriving DecidableEq, Repr, Inhabited

namespace Config

/-- The settings when nothing else is said. -/
def default : Config where
  serverUrl := "http://127.0.0.1:8000"
  databaseUrl := Address.default
  pageSize := 50
  billingEnabled := false
  organizationId := none

/-- The file that is read unless another one is named. -/
def defaultFile : String := "projects.toml"

/-! ### The file -/

/-- What a name means in a file: nothing when it is absent, and no file at all when its
value is of the wrong kind. -/
def setting {α : Type} (es : Toml.Entries) (name : String) (read : Toml.Value → Option α) :
    Option (Option α) :=
  match Toml.get? name es with
  | none => some none
  | some v => (read v).map some

/-- A text. -/
def asText : Toml.Value → Option String
  | .string s => some s
  | _ => none

/-- A number of projects. -/
def asWord : Toml.Value → Option UInt32
  | .integer i => Number.toWord32? i
  | _ => none

/-- Yes or no. -/
def asFlag : Toml.Value → Option Bool
  | .boolean b => some b
  | _ => none

/-- The settings with those of a table in their place, unless one of these is of the
wrong kind. -/
def withTable (c : Config) (es : Toml.Entries) : Option Config := do
  let serverUrl ← setting es "server_url" asText
  let databaseUrl ← setting es "database_url" asText
  let pageSize ← setting es "page_size" asWord
  let billingEnabled ← setting es "billing_enabled" asFlag
  let organizationId ← setting es "organization_id" asText
  pure
    { serverUrl := serverUrl.getD c.serverUrl
      databaseUrl := databaseUrl.getD c.databaseUrl
      pageSize := pageSize.getD c.pageSize
      billingEnabled := billingEnabled.getD c.billingEnabled
      organizationId := organizationId <|> c.organizationId }

/-- The settings with those of a file in their place. -/
def withFile (c : Config) (text : String) : Config :=
  ((Toml.parse text).bind c.withTable).getD c

/-! ### The environment -/

/-- The texts that mean yes. -/
def affirmations : List String := ["1", "true", "yes", "on"]

/-- A number of projects as it is typed. -/
def typedWord? (s : String) : Option UInt32 :=
  (Number.typedNat? s).bind fun n => Number.toWord32? n

/-- The settings with those of the environment in their place.  Of two variables for the
same setting the one with the longer name counts. -/
def withEnvironment (c : Config) (env : String → Option String) : Config where
  serverUrl := (env "APP__SERVER_URL" <|> env "KPI_URL").getD c.serverUrl
  databaseUrl := (env "APP__DATABASE_URL" <|> env "DATABASE_URL").getD c.databaseUrl
  pageSize := ((env "APP__PAGE_SIZE").bind typedWord?).getD c.pageSize
  billingEnabled :=
    match env "APP__BILLING_ENABLED" with
    | some s => affirmations.contains (Text.lower (Text.trim s))
    | none => c.billingEnabled
  organizationId :=
    match env "APP__ORGANIZATION_ID" with
    | some s => if (Text.trim s).isEmpty then none else some (Text.trim s)
    | none => c.organizationId

/-- The settings of a file, if there is one, and of the environment. -/
def load (file : Option String) (env : String → Option String) : Config :=
  let c := match file with
    | some text => default.withFile text
    | none => default
  c.withEnvironment env

end Config

end ProjectViews
