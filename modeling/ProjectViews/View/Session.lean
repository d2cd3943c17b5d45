/-
Sessions: a view over a server and a database, used by one person.

The person does one thing at a time: every operation runs to its end before the next
one starts.  Settings that cannot be loaded count as missing, and settings that cannot
be saved are done without; requests that fail are noted.
-/
import ProjectViews.Server.Client
import ProjectViews.Storage.Connection
import ProjectViews.View.Store

namespace ProjectViews

/-- A view in use. -/
structure Session where
  client : Client
  store : Store
  connection : Connection
  /-- What went wrong so far, in words. -/
  problems : List String
deriving Inhabited

namespace Session

/-- A view that is not set up yet. -/
def new (client : Client) (connection : Connection) : Session :=
  ⟨client, .empty client.registry, connection, []⟩

/-- Takes note of what a step gives to the outside. -/
def note (s : Session) : Output → Session
  | .event (.error message) => { s with problems := s.problems ++ [message] }
  | _ => s

variable {m : Type → Type} [Monad m]

/-- Carries out what a step asks for, and what the steps after it ask for, for at most
`fuel` steps, and says how the operation ended. -/
def carryOut (network : Network m) :
    (fuel : Nat) → Session → List Output → m (Session × Option Result)
  | 0, s, _ => pure (s, none)
  | fuel + 1, s, outputs =>
    let s := outputs.foldl note s
    match outputs.getLast? with
    | some (.finished _ result) => pure (s, some result)
    | some (.save task view settings) =>
      let (connection, _) := s.connection.saveViewSettings view settings.print
      let (store, outputs) := s.store.saved task
      carryOut network fuel { s with store := store, connection := connection } outputs
    | some (.request task query) => do
      let answer ← s.client.fetchPage network query
      let (store, outputs) := s.store.answered task answer
      carryOut network fuel { s with store := store } outputs
    | _ => pure (s, none)

/-- Runs an operation to its end: it may save, ask for a page, and end, each once. -/
def perform (network : Network m) (s : Session) (op : Operation) :
    m (Session × Option Result) :=
  let (store, outputs) := s.store.start 0 op
  carryOut network 3 { s with store := store } outputs

/-- Sets the view up with the settings kept for it. -/
def setUp (network : Network m) (s : Session) (view baseQuery : String)
    (fields : List Field) : m (Session × Option Result) :=
  let (connection, text) := s.connection.viewSettings view
  let saved := match text with
    | .ok text => text.bind ViewSettings.parse
    | .error _ => none
  perform network { s with connection := connection } (.setUp view baseQuery fields saved)

/-- Runs operations one after the other, up to one that is refused. -/
def performAll (network : Network m) :
    List Operation → Session → m (Session × Option Violation)
  | [], s => pure (s, none)
  | op :: ops, s => do
    match ← s.perform network op with
    | (s, some (.refused v)) => pure (s, some v)
    | (s, _) => performAll network ops s

/-- Loads further pages, at most `n` of them, up to the first time that none comes. -/
def loadMore (network : Network m) : (n : Nat) → Session → m Session
  | 0, s => pure s
  | n + 1, s => do
    match ← s.perform network .fetchMore with
    | (s, some (.fetched (.loaded _ _ _ _))) => loadMore network n s
    | (s, _) => pure s

/-- What the view shows now. -/
def snapshot (s : Session) : Snapshot := s.store.state.snapshot

end Session

end ProjectViews
