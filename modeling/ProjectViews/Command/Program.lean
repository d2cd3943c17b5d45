/-
The program: what a command line does.

The settings come from the configuration file, the environment and the command line,
the later ones before the earlier ones.  Then the database is opened, markers that have
expired are deleted, and the command is carried out.  What stops a command is its last
word on the error output, and the exit code is one; a command line that means nothing
has the exit code two.  Requests for projects that fail do not stop the list: it shows
what there is, and each failure has its line on the error output.
-/
import ProjectViews.Command.Arguments
import ProjectViews.Command.Phrase
import ProjectViews.Usage.Notice
import ProjectViews.View.Selection
import ProjectViews.View.Session
import ProjectViews.View.Table

namespace ProjectViews

/-- Why a command stops. -/
inductive Stop where
  | storage (error : StorageError)
  | server (address : String) (problem : Url.Problem)
  | phrase (problem : Phrase.Problem)
  | violation (violation : Violation)
  | failure (failure : Failure)
  /-- Something is to be remembered for longer than time lasts. -/
  | endOfTime
deriving Repr, Inhabited

/-- Why a command stops, in words. -/
def Stop.message : Stop → String
  | storage error => error.display
  | server address _ => "invalid server url '" ++ address ++ "'"
  | phrase problem => problem.message
  | violation v => v.message
  | failure f => f.display
  | endOfTime => "there is no day after this one"

/-- What a run of the program leaves behind besides files. -/
structure Outcome where
  exitCode : UInt8
  output : String
  errors : String
deriving DecidableEq, Repr, Inhabited

namespace Outcome

/-- Lines with their line ends. -/
def lines (ls : List String) : String := Table.concat (ls.map fun l => l ++ "\n")

/-- The end of a run whose command line means nothing. -/
def misused : Outcome := ⟨2, "", lines ["error: the arguments make no command"]⟩

/-- The end of a run that was stopped. -/
def stopped (s : Stop) : Outcome := ⟨1, "", lines ["Error: " ++ s.message]⟩

/-- The end of a run with its output and the problems on the way. -/
def finished (output : String) (problems : List String) : Outcome :=
  ⟨0, output, lines (problems.map fun p => "error: " ++ p)⟩

/-- The end of a run that was stopped after some problems. -/
def stoppedAfter (problems : List String) (s : Stop) : Outcome :=
  { stopped s with errors := (finished "" problems).errors ++ (stopped s).errors }

end Outcome

namespace Program

/-- What a program works with: its settings, its client and the time. -/
structure Setup where
  config : Config
  client : Client
  now : Instant
deriving Repr, Inhabited

/-- The operations on a view that a request for a list asks for, once the view is set
up. -/
def operations (r : Registry) (q : ListRequest) : Except Phrase.Problem (List Operation) := do
  let filters ← q.filters.mapM (Phrase.filter r)
  let order ← q.order.mapM (Phrase.order r)
  let fields ← q.fields.mapM Phrase.field
  pure
    ((if q.resetsFields then [.resetFields] else [])
      ++ (if fields.isEmpty then [] else [.setFields fields])
      ++ (if filters.isEmpty then [] else [.setFilters filters])
      ++ (order.map .setOrder).toList)

variable {m : Type → Type} [Monad m]

/-- Fetches usage and subscription and decides what is to be told about limits.  The
subscription is only asked for when there is a usage report. -/
def decide (network : Network m) (s : Setup) (c : Connection) :
    m (Connection × Except Stop Decision) := do
  let gate := Gate.new s.config.billingEnabled s.config.organizationId .unlimited
  let report ← s.client.fetchUsage network s.config.organizationId
  let subscription ← match report with
    | .ok _ => s.client.fetchSubscription network
    | .error failure => pure (.error failure)
  match gate.mount (.inDatabase c) s.now report subscription with
  | none => pure (c, .error .endOfTime)
  | some (_, markers, _, decision) =>
    let c := match markers.place with
      | .database c => c
      | .memory _ => c
    pure (c, decision.mapError .failure)

/-- What a list says about the selected projects: nothing when none were asked for. -/
def selectionLines (snapshot : Snapshot) (selected : List String) : List String :=
  if selected.isEmpty then []
  else [((Selection.set snapshot selected).affordance snapshot).1.describe]

/-- Lists projects. -/
def list (network : Network m) (s : Setup) (c : Connection) (q : ListRequest) :
    m (Connection × Outcome) := do
  let r := s.client.registry
  match operations r q with
  | .error problem => pure (c, .stopped (.phrase problem))
  | .ok ops =>
    let (session, _) ← (Session.new s.client c).setUp network ownViewUid ownBaseQuery
      r.defaultVisibleFields
    let (session, violation) ← Session.performAll network ops session
    match violation with
    | some v => pure (session.connection, .stoppedAfter session.problems (.violation v))
    | none =>
      let session ← Session.loadMore network (q.pages.toNat - 1) session
      let (c, decision) ← decide network s session.connection
      let notices := match decision with
        | .ok d => d.notices
        | .error _ => []
      let output := Table.render r session.snapshot
        ++ Outcome.lines (selectionLines session.snapshot q.selected ++ notices)
      pure (c, .finished output session.problems)

/-- Tells what is to be told about limits. -/
def limits (network : Network m) (s : Setup) (c : Connection) :
    m (Connection × Outcome) := do
  let (c, decision) ← decide network s c
  match decision with
  | .ok d => pure (c, .finished (Outcome.lines d.notices) [])
  | .error stop => pure (c, .stopped stop)

/-- Tells the usage by projects. -/
def projectUsage (network : Network m) (s : Setup) (page : UInt32)
    (order : Option String) : m Outcome := do
  match order.mapM (Phrase.order s.client.registry) with
  | .error problem => pure (.stopped (.phrase problem))
  | .ok order =>
    match ← s.client.fetchProjectUsage network s.config.organizationId page order with
    | .ok usage => pure (.finished (Outcome.lines usage.usageLines) [])
    | .error failure => pure (.stopped (.failure failure))

/-- Carries out a command over an open database. -/
def perform (network : Network m) (s : Setup) (c : Connection) (command : Command) :
    m (Connection × Outcome) :=
  match command with
  | .list request => list network s c request
  | .limits => limits network s c
  | .projectUsage page order => do pure (c, ← projectUsage network s page order)

/-- Deletes expired markers, finds the server and carries out a command. -/
def performWith (network : Network m) (config : Config) (now : Instant)
    (c : Connection) (command : Command) : m (Connection × Outcome) :=
  let (c, purged) := c.purge now
  match purged, Client.new .ownProjects config.serverUrl with
  | .error e, _ => pure (c, .stopped (.storage e))
  | _, .error problem => pure (c, .stopped (.server config.serverUrl problem))
  | .ok _, .ok client =>
    perform network ⟨config, client.withPageSize config.pageSize, now⟩ c command

/-- The settings of a run. -/
def configure (env : String → Option String) (disk : Disk) (a : Arguments) : Config :=
  a.applyTo (Config.load (disk.readText? a.configFile) env)

/-- Runs the program: the files after the run, and what it leaves besides. -/
def run (network : Network m) (env : String → Option String) (now : Instant)
    (disk : Disk) (arguments : List String) : m (Disk × Outcome) :=
  match Arguments.parse arguments with
  | none => pure (disk, .misused)
  | some a =>
    let config := configure env disk a
    match Connection.openAt disk (Address.normalize config.databaseUrl) with
    | (disk, .error e) => pure (disk, .stopped (.storage e))
    | (disk, .ok c) => do
      let (c, outcome) ← performWith network config now c a.command
      pure ((c.close disk).1, outcome)

end Program

end ProjectViews
