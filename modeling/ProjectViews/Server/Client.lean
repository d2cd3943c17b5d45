/-
The client of the server.

A client knows the address of the server, under which all endpoints lie, and how many
projects to ask for at a time.  Every call sends a request that asks for JSON.  An
answer with an error status is a failure with the body that explains it, if that is
JSON; a body that is not what was asked for is a failure as well.

The page after another one is asked for by its cursor, which is the address of that
page, perhaps relative to the server.

How requests travel is left open: a network says what comes back for a request, with
whatever effects that has.
-/
import ProjectViews.Project.Search
import ProjectViews.Server.Status
import ProjectViews.Url.Reader
import ProjectViews.Usage.ProjectUsage
import ProjectViews.Usage.Report
import ProjectViews.Usage.Subscription
import ProjectViews.View.State

namespace ProjectViews

/-- A request that asks for the JSON at an address. -/
structure Request where
  url : Url
deriving DecidableEq, Repr, Inhabited

/-- What a server answers. -/
structure Response where
  status : UInt16
  contentType : Option String
  body : List Utf8.Byte
deriving DecidableEq, Repr, Inhabited

/-- What becomes of requests: an answer, or a reason why there is none. -/
abbrev Network (m : Type → Type) := Request → m (Except String Response)

/-- No request comes through. -/
def Network.offline : Network Id := fun _ => .error "the server cannot be reached"

namespace Response

/-- The body as JSON. -/
def tree? (r : Response) : Option Json.Tree :=
  (Utf8.decode? r.body).bind Json.Tree.parseChars

/-- Whether the body is said to be JSON. -/
def isJson (r : Response) : Bool :=
  match r.contentType with
  | some s => Text.holds s "application/json"
  | none => false

/-- The body that explains an error. -/
def explanation? (r : Response) : Option Json :=
  if r.isJson then r.tree?.bind Json.ofTree? else none

/-- The value that an answer holds. -/
def read {α : Type} (value : Json.Tree → Option α) (r : Response) : Except Failure α :=
  if Status.isSuccess r.status then
    match r.tree?.bind value with
    | some a => .ok a
    | none => .error (.decode "the body is not what was asked for")
  else .error (.status r.status (Status.reason r.status) r.explanation?)

end Response

/-- A client of a server. -/
structure Client where
  registry : Registry
  server : Url
  pageSize : UInt32
deriving DecidableEq, Repr, Inhabited

namespace Client

/-- How many projects are asked for at a time unless something else is said. -/
def defaultPageSize : UInt32 := 50

/-- A client of the server at an address. -/
def new (registry : Registry) (address : String) : Except Url.Problem Client := do
  let url ← Url.parse address
  pure ⟨registry, url.withTrailingSlash, defaultPageSize⟩

/-- The client with another page size, which is at least one and at most a thousand. -/
def withPageSize (c : Client) (n : UInt32) : Client :=
  { c with pageSize := if n < 1 then 1 else if 1000 < n then 1000 else n }

/-! ### Requests -/

/-- The address of an endpoint. -/
def endpoint (c : Client) (path : String) : Except Failure Url :=
  match c.server.join path with
  | .ok url => .ok url
  | .error p => .error (.transport ("invalid endpoint '" ++ path ++ "': " ++ p.message))

/-- The path of an endpoint of an organization. -/
def organizationPath (id leaf : String) : String :=
  "api/v2/organizations/" ++ id ++ "/" ++ leaf ++ "/"

/-- The path of an endpoint of an organization, or of the one for everybody. -/
def usagePath (organization : Option String) (leaf : String) : String :=
  match organization with
  | some id => organizationPath id leaf
  | none => "api/v2/" ++ leaf ++ "/"

/-- An ordering as a pair of a query. -/
def orderingPair (c : Client) (order : Option Order) : List (String × String) :=
  ((Search.ordering c.registry order).map fun o => ("ordering", o)).toList

/-- What is asked of the server for the first page of a query. -/
def firstPagePairs (c : Client) (q : Query) : List (String × String) :=
  let search := Search.query c.registry q.baseQuery q.filters
  (if search.isEmpty then [] else [("q", search)])
    ++ ("limit", Number.write c.pageSize.toNat) :: c.orderingPair q.order

/-- The request for the page of a query. -/
def pageRequest (c : Client) (q : Query) : Except Failure Request :=
  match q.cursor with
  | some cursor =>
    match c.server.join cursor.token with
    | .ok url => .ok ⟨url⟩
    | .error p => .error (.decode ("invalid cursor: " ++ p.message))
  | none => do
    let url ← c.endpoint "api/v2/assets/"
    pure ⟨url.addQuery (c.firstPagePairs q)⟩

/-- The request for the usage of an organization or of one's own. -/
def usageRequest (c : Client) (organization : Option String) : Except Failure Request := do
  let url ← c.endpoint (usagePath organization "service_usage")
  pure ⟨url⟩

/-- The request for the subscriptions. -/
def subscriptionRequest (c : Client) : Except Failure Request := do
  let url ← c.endpoint "api/v2/stripe/subscriptions/"
  pure ⟨url⟩

/-- The request for a page of the usage by projects, of an organization or of one's
own.  Pages are counted from one. -/
def projectUsageRequest (c : Client) (organization : Option String) (page : UInt32)
    (order : Option Order) : Except Failure Request := do
  let url ← c.endpoint (usagePath organization "asset_usage")
  let number := if page < 1 then 1 else page
  pure ⟨url.addQuery (("page", Number.write number.toNat) :: c.orderingPair order)⟩

/-! ### Calls -/

variable {m : Type → Type} [Monad m]

/-- Sends a request and reads the answer.  Only addresses of the web can be asked. -/
def send {α : Type} (network : Network m) (value : Json.Tree → Option α)
    (request : Request) : m (Except Failure α) := do
  if request.url.isWeb then
    match ← network request with
    | .ok response => pure (response.read value)
    | .error reason => pure (.error (.transport reason))
  else pure (.error (.transport "the address is none of the web"))

/-- Sends a request if there is one. -/
def sendIfAny {α : Type} (network : Network m) (value : Json.Tree → Option α)
    (request : Except Failure Request) : m (Except Failure α) :=
  match request with
  | .ok request => send network value request
  | .error failure => pure (.error failure)

/-- The page that an answer holds.  The rows keep whatever the server says about them,
nested as deeply as JSON may be. -/
def rowPage? (t : Json.Tree) : Option (Page Row) :=
  Page.ofTree? (Row.ofTree? (Json.nestingLimit - 2)) t

/-- Fetches the page of a query. -/
def fetchPage (c : Client) (network : Network m) (q : Query) :
    m (Except Failure RowPage) := do
  let page ← sendIfAny network rowPage? (c.pageRequest q)
  pure (page.map fun p => ⟨p.results, p.next.map (⟨·⟩)⟩)

/-- Fetches the usage of an organization or of one's own. -/
def fetchUsage (c : Client) (network : Network m) (organization : Option String) :
    m (Except Failure UsageReport) :=
  sendIfAny network UsageReport.ofTree? (c.usageRequest organization)

/-- Fetches the first subscription, if there is any. -/
def fetchSubscription (c : Client) (network : Network m) :
    m (Except Failure (Option Subscription)) := do
  let page ← sendIfAny network (Page.ofTree? Subscription.ofTree?) c.subscriptionRequest
  pure (page.map fun p => p.results.head?)

/-- Fetches a page of the usage by projects.  When that of the organization cannot be
had, one's own is fetched instead. -/
def fetchProjectUsage (c : Client) (network : Network m)
    (organization : Option String) (page : UInt32) (order : Option Order) :
    m (Except Failure (Page ProjectUsage)) := do
  let own := sendIfAny network (Page.ofTree? ProjectUsage.ofTree?)
    (c.projectUsageRequest none page order)
  match organization with
  | none => own
  | some id =>
    match c.projectUsageRequest (some id) page order with
    | .error failure => pure (.error failure)
    | .ok request =>
      match ← send network (Page.ofTree? ProjectUsage.ofTree?) request with
      | .ok usage => pure (.ok usage)
      | .error _ => own

end Client

end ProjectViews
