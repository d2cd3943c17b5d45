/-
What can be done with a view, and what each operation does at once.

An operation first commits: it changes the state in one go, tells the watchers, and
says what it still has to do.  It may be finished with that, it may have to save the
settings, it may have to ask the server for a page, or first the one and then the
other.  An operation that is against the rules of the view changes nothing at all.
-/
import ProjectViews.View.State

namespace ProjectViews

/-- An operation on a view. -/
inductive Operation where
  /-- Sets the view up: its uid, the base of its search, the fields it shows unless
  something else was remembered, and what was remembered. -/
  | setUp (uid baseQuery : String) (fields : List Field) (saved : Option ViewSettings)
  | setFilters (filters : List Filter)
  | setOrder (order : Order)
  | setFields (fields : List Field)
  | resetFields
  | hideField (field : Field)
  | fetchMore
  | reload
  /-- A project was changed elsewhere. -/
  | projectChanged (row : Row)
  /-- A project was deleted elsewhere. -/
  | projectDeleted (uid : String)
deriving Repr, Inhabited

/-- A way to use a view against its rules. -/
inductive Violation where
  | alreadySetUp (uid : String)
  | filterOnExcluded (field : Field)
  | notOrderable (field : Field)
  | notSetUp
deriving DecidableEq, Repr, Inhabited

/-- What a violation consists in. -/
def Violation.reason : Violation → String
  | alreadySetUp uid => "set_up called twice (view " ++ uid ++ " already set up)"
  | filterOnExcluded field => "filter on excluded field " ++ field.text
  | notOrderable field => "field " ++ field.text ++ " is not orderable"
  | notSetUp => "view used before set_up"

/-- A violation in words. -/
def Violation.message (v : Violation) : String := "invariant violation: " ++ v.reason

/-- What a request for a page did to the view. -/
inductive FetchOutcome where
  | loaded (generation added duplicates : Nat) (hasMorePages : Bool)
  /-- There was nothing to do: a page is being loaded, or there is none. -/
  | skipped
  /-- The answer belonged to an older generation and was dropped. -/
  | stale (generation : Nat)
  | failed (failure : Failure)
deriving Repr, Inhabited

/-- What an operation returns. -/
inductive Result where
  | fetched (outcome : FetchOutcome)
  /-- The visible fields are as they were asked for. -/
  | fieldsSet
  /-- Whether a row was concerned. -/
  | noticed (concerned : Bool)
  | refused (violation : Violation)
deriving Repr, Inhabited

/-- What is left of an operation once its settings are saved. -/
inductive AfterSave where
  | finish
  | fetch (generation : Nat) (query : Query)
deriving Repr, Inhabited

/-- What an operation does next. -/
inductive Next where
  | done (result : Result)
  | save (uid : String) (after : AfterSave)
  | fetch (generation : Nat) (query : Query)
deriving Repr, Inhabited

/-- What an operation does once its settings are saved. -/
def AfterSave.next : AfterSave → Next
  | .finish => .done .fieldsSet
  | .fetch generation query => .fetch generation query

/-- What committing an operation comes to: the new state, what the watchers are told
and what the operation does next. -/
structure Commit where
  state : ViewState
  events : List Event
  next : Next
deriving Repr, Inhabited

namespace Commit

/-- An operation that is finished without having changed anything. -/
def nothing (s : ViewState) (result : Result) : Commit := ⟨s, [], .done result⟩

/-- An operation that is against the rules. -/
def refuse (s : ViewState) (v : Violation) : Commit := nothing s (.refused v)

/-- A change that asks the server again, from the first page. -/
def reset (s : ViewState) (next : (generation : Nat) → Query → Next) : Commit :=
  let s := s.beginGeneration
  ⟨s, [.rowsReset s.generation, .stateChanged s.generation], next s.generation (s.query none)⟩

/-- A change of the visible fields, which is only saved when it is one. -/
def updateFields (s : ViewState) (update : ViewState → List Field) : Commit :=
  match s.uid with
  | none => refuse s .notSetUp
  | some uid =>
    if update s = s.visibleFields then nothing s .fieldsSet
    else
      ⟨{ s with visibleFields := update s }, [.stateChanged s.generation], .save uid .finish⟩

end Commit

namespace Operation

/-- What an operation does at once. -/
def commit (r : Registry) (s : ViewState) : Operation → Commit
  | setUp uid baseQuery fields saved =>
    match s.uid with
    | some existing => .refuse s (.alreadySetUp existing)
    | none =>
      let fields := ViewState.admitted r fields
      let s :=
        { s with
          uid := some uid
          baseQuery := baseQuery
          defaultFields := fields
          visibleFields := fields }
      .reset (match saved with
        | some saved => s.restore r saved
        | none => s) .fetch
  | setFilters filters =>
    match filters.find? fun f => r.isExcluded f.field with
    | some f => .refuse s (.filterOnExcluded f.field)
    | none =>
      match s.uid with
      | none => .refuse s .notSetUp
      | some uid => .reset { s with filters := filters } fun g q => .save uid (.fetch g q)
  | setOrder order =>
    if r.isOrderable order.field then
      match s.uid with
      | none => .refuse s .notSetUp
      | some uid => .reset { s with order := some order } fun g q => .save uid (.fetch g q)
    else .refuse s (.notOrderable order.field)
  | setFields fields => .updateFields s fun _ => ViewState.admitted r fields
  | resetFields => .updateFields s (·.defaultFields)
  | hideField field => .updateFields s fun s => s.visibleFields.filter (· != field)
  | fetchMore =>
    if s.isLoading then .nothing s (.fetched .skipped)
    else
      match s.cursor with
      | none => .nothing s (.fetched .skipped)
      | some cursor =>
        ⟨{ s with isLoading := true }, [.stateChanged s.generation],
          .fetch s.generation (s.query (some cursor))⟩
  | reload =>
    match s.uid with
    | none => .refuse s .notSetUp
    | some _ => .reset s .fetch
  | projectChanged row =>
    if s.rows.any fun loaded => loaded.uid == row.uid then
      ⟨{ s with rows := s.rows.map fun loaded => if loaded.uid == row.uid then row else loaded },
        [.stateChanged s.generation], .done (.noticed true)⟩
    else .nothing s (.noticed false)
  | projectDeleted uid =>
    if s.rows.any fun loaded => loaded.uid == uid then
      ⟨{ s with rows := s.rows.filter fun loaded => loaded.uid != uid },
        [.stateChanged s.generation], .done (.noticed true)⟩
    else .nothing s (.noticed false)

end Operation

/-- What people are told a failed request was for. -/
def fetchContext : String := "Failed to load projects"

/-- What an answer of the server comes to: the new state, what the watchers are told
and what the request did.  An answer to an older generation comes to nothing. -/
def ViewState.receive (s : ViewState) (generation : Nat) (answer : Except Failure RowPage) :
    ViewState × List Event × FetchOutcome :=
  if s.generation ≠ generation then (s, [], .stale generation)
  else
    match answer with
    | .ok page =>
      let added := (newRows s.seen page.rows).length
      ({ s.appendPage page.rows with
          isLoading := false, cursor := page.next, isFirstLoadComplete := true },
        (if s.isFirstLoadComplete then [] else [.firstLoadComplete generation])
          ++ [.stateChanged generation],
        .loaded generation added (page.rows.length - added) page.next.isSome)
    | .error failure =>
      ({ s with isLoading := false },
        [.error (failure.notification fetchContext), .stateChanged generation],
        .failed failure)

end ProjectViews
