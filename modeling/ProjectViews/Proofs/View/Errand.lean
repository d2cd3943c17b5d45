/-
Errands: the requests that operations are out for.

An operation that is going to ask the server, or has asked it and not heard from it yet,
is out on an errand, and the request and its generation stay with it wherever it waits
meanwhile, in the line of those that save included.

`Passage` says what a move comes to for the errands and for the pages of the view.  It
is `Effect` seen from there: most moves change neither, so all that happens on the way
through the line and to the server is one case of it.
-/
import ProjectViews.Proofs.View.Run

namespace ProjectViews

/-- The request that an operation is out for, and the generation it is for. -/
def Stage.errand? : Stage → Option (Nat × Query)
  | ready _ next => next.errand?
  | queued _ after => after.errand?
  | saving _ _ after => after.errand?
  | fetching generation query => some (generation, query)

namespace Store

/-- The request that an operation of a store is out for. -/
def errand? (s : Store) (task : Nat) : Option (Nat × Query) :=
  (s.stage? task).bind Stage.errand?

theorem errand?_of_stage? {s : Store} {task : Nat} {stage : Stage}
    (h : s.stage? task = some stage) : s.errand? task = stage.errand? := by
  rw [errand?, h]
  rfl

theorem errand?_leave (s : Store) (task u : Nat) :
    (s.leave task).errand? u = if u = task then none else s.errand? u := by
  rw [errand?, stage?_leave]
  by_cases hu : u = task
  · rw [if_pos hu, if_pos hu]
    rfl
  · rw [if_neg hu, if_neg hu]
    rfl

theorem errand?_put (s : Store) (task u : Nat) (stage : Stage) :
    (s.put task stage).errand? u = if u = task then stage.errand? else s.errand? u := by
  rw [errand?, stage?_put]
  by_cases hu : u = task
  · rw [if_pos hu, if_pos hu]
    rfl
  · rw [if_neg hu, if_neg hu]
    rfl

/-- An operation that takes its errand along to where it stands next leaves all errands
as they were. -/
theorem errand?_put_of_eq {s : Store} {task : Nat} {stage stage' : Stage}
    (h : s.stage? task = some stage) (same : stage'.errand? = stage.errand?) (u : Nat) :
    (s.put task stage').errand? u = s.errand? u := by
  rw [errand?_put]
  by_cases hu : u = task
  · rw [if_pos hu, hu, errand?_of_stage? h, same]
  · rw [if_neg hu]

/-- What a move tells the view about projects.  A page only counts as long as its
generation is the present one. -/
def news? (s : Store) : Move → Option News
  | .enter task op => if (s.stage? task).isNone then op.news? else none
  | .take task (.ok page) =>
    match s.stage? task with
    | some (.fetching generation query) =>
      if s.state.generation = generation then some (.page query page) else none
    | _ => none
  | _ => none

theorem news?_of_ignores {s : Store} {m : Move} (h : s.Ignores m) : s.news? m = none := by
  cases m with
  | enter task op =>
      cases hstage : s.stage? task with
      | none => exact absurd hstage h
      | some stage => simp [news?, hstage]
  | take task answer =>
      cases answer with
      | error failure => rfl
      | ok page =>
          rw [news?]
          split
          · rename_i hstage
            exact absurd hstage (h _ _)
          · rfl
  | goOn task => rfl
  | takeTurn task => rfl
  | endTurn task worked => rfl

end Store

/-- What a move comes to for the pages of the view and for the errands. -/
inductive Passage (s : Store) (m : Move) (t : Store) : Prop
  /-- No errand begins or ends. -/
  | rests (generation : t.state.generation = s.state.generation)
      (loading : t.state.isLoading = s.state.isLoading)
      (question : t.state.question = s.state.question) (seen : t.state.seen = s.state.seen)
      (cursor : t.state.cursor = s.state.cursor)
      (rows : t.state.rows = rowsAfter s.state.rows (s.news? m))
      (noPage : ∀ query page, s.news? m ≠ some (.page query page))
      (errands : ∀ u, t.errand? u = s.errand? u)
  /-- An operation begins a generation and is out for its first page. -/
  | begins {task : Nat} (generation : t.state.generation = s.state.generation + 1)
      (loading : t.state.isLoading = true) (rows : t.state.rows = []) (seen : t.state.seen = [])
      (cursor : t.state.cursor = none) (free : s.errand? task = none) (news : s.news? m = none)
      (errands : ∀ u, t.errand? u
        = if u = task then some (s.state.generation + 1, t.state.question) else s.errand? u)
  /-- An operation is out for the next page. -/
  | continues {task : Nat} {cursor : Cursor}
      (state : t.state = { s.state with isLoading := true }) (idle : s.state.isLoading = false)
      (more : s.state.cursor = some cursor) (free : s.errand? task = none)
      (news : s.news? m = none)
      (errands : ∀ u, t.errand? u
        = if u = task then some (s.state.generation, s.state.query (some cursor))
          else s.errand? u)
  /-- The answer for a generation that is over comes in. -/
  | stale {task generation : Nat} {query : Query} {answer : Except Failure RowPage}
      (move : m = .take task answer) (errand : s.errand? task = some (generation, query))
      (old : s.state.generation ≠ generation) (state : t.state = s.state)
      (news : s.news? m = none)
      (errands : ∀ u, t.errand? u = if u = task then none else s.errand? u)
  /-- A page of the present generation comes in. -/
  | page {task : Nat} {query : Query} {page : RowPage} (move : m = .take task (.ok page))
      (errand : s.errand? task = some (s.state.generation, query))
      (state : t.state = { s.state.appendPage page.rows with
        isLoading := false, cursor := page.next, isFirstLoadComplete := true })
      (news : s.news? m = some (.page query page))
      (errands : ∀ u, t.errand? u = if u = task then none else s.errand? u)
  /-- A request of the present generation has failed. -/
  | fails {task : Nat} {query : Query} {failure : Failure}
      (move : m = .take task (.error failure))
      (errand : s.errand? task = some (s.state.generation, query))
      (state : t.state = { s.state with isLoading := false }) (news : s.news? m = none)
      (errands : ∀ u, t.errand? u = if u = task then none else s.errand? u)

/-- A move that changes neither the view nor an errand. -/
theorem Passage.of_quiet {s t : Store} {m : Move} (state : t.state = s.state)
    (news : s.news? m = none) (errands : ∀ u, t.errand? u = s.errand? u) : Passage s m t := by
  refine .rests ?_ ?_ ?_ ?_ ?_ ?_ ?_ errands
  · rw [state]
  · rw [state]
  · rw [state]
  · rw [state]
  · rw [state]
  · rw [state, news]
    rfl
  · intro query page h
    simp [news] at h

/-- A started operation is out for what its commit asks. -/
theorem Passage.of_entered {s : Store} {task : Nat} {op : Operation} {c : Commit}
    (free : s.stage? task = none) (h : Fetches s.state op c) :
    Passage s (.enter task op) ({ s with state := c.state }.put task (.ready c.events c.next)) := by
  have hfree : s.errand? task = none := by rw [Store.errand?, free]; rfl
  have hnews : s.news? (.enter task op) = op.news? := by rw [Store.news?, free]; rfl
  have herrands : ∀ u, ({ s with state := c.state }.put task (.ready c.events c.next)).errand? u
      = if u = task then c.next.errand? else s.errand? u :=
    fun u => Store.errand?_put _ task u _
  cases h with
  | begins generation loading rows seen cursor errand news =>
      refine .begins generation loading rows seen cursor hfree (hnews.trans news) fun u => ?_
      rw [herrands, errand]
      rfl
  | continues state idle more errand news =>
      refine .continues state idle more hfree (hnews.trans news) fun u => ?_
      rw [herrands, errand]
  | asksNothing generation loading question seen cursor rows errand =>
      refine .rests generation loading question seen cursor ?_ ?_ fun u => ?_
      · rw [hnews]
        exact rows
      · intro query page
        rw [hnews]
        exact op.news?_ne_page query page
      · rw [herrands, errand]
        by_cases hu : u = task
        · rw [if_pos hu, hu, hfree]
        · rw [if_neg hu]

/-- An answer ends the errand it was fetched for, whatever it says. -/
theorem Passage.of_took {s : Store} {task generation : Nat} {query : Query}
    (answer : Except Failure RowPage) (h : s.stage? task = some (.fetching generation query)) :
    Passage s (.take task answer)
      ({ s with state := (s.state.receive generation answer).1 }.put task
        (.ready (s.state.receive generation answer).2.1
          (.done (.fetched (s.state.receive generation answer).2.2)))) := by
  have herrand : s.errand? task = some (generation, query) := Store.errand?_of_stage? h
  have herrands : ∀ u, ({ s with state := (s.state.receive generation answer).1 }.put task
      (.ready (s.state.receive generation answer).2.1
        (.done (.fetched (s.state.receive generation answer).2.2)))).errand? u
      = if u = task then none else s.errand? u := fun u => Store.errand?_put _ task u _
  by_cases hnow : s.state.generation = generation
  · subst hnow
    cases answer with
    | ok page =>
        have hnews : s.news? (.take task (.ok page)) = some (.page query page) := by
          rw [Store.news?, h]
          exact if_pos rfl
        refine .page rfl herrand ?_ hnews herrands
        rw [Store.put_state, ViewState.receive_page]
    | error failure =>
        refine .fails rfl herrand ?_ rfl herrands
        rw [Store.put_state, ViewState.receive_failure]
  · refine .stale rfl herrand hnow ?_ ?_ herrands
    · rw [Store.put_state, ViewState.receive_stale _ _ hnow]
    · cases answer with
      | error failure => rfl
      | ok page =>
          rw [Store.news?, h]
          exact if_neg hnow

/-- **Every effect is one of these for the pages and the errands.** -/
theorem Effect.passage {s : Store} {m : Move} {t : Store × List Output} (e : Effect s m t) :
    Passage s m t.1 := by
  cases e with
  | ignored h => exact .of_quiet rfl (Store.news?_of_ignores h) fun _ => rfl
  | entered h => exact .of_entered h (Operation.commits _ _ _).fetches
  | @ended task events result h =>
      refine .of_quiet rfl rfl fun u => ?_
      rw [Store.errand?_leave]
      by_cases hu : u = task
      · rw [if_pos hu, hu, Store.errand?_of_stage? h]
        rfl
      · rw [if_neg hu]
  | asked h => exact .of_quiet rfl rfl (Store.errand?_put_of_eq h rfl)
  | joined h => exact .of_quiet rfl rfl (Store.errand?_put_of_eq h rfl)
  | handed h => exact .of_quiet rfl rfl (Store.errand?_put_of_eq h rfl)
  | @saved task _ _ _ after h =>
      have hline : { s with line := s.line.drop 1 }.stage? task = s.stage? task := rfl
      exact .of_quiet rfl rfl
        (Store.errand?_put_of_eq (hline.trans h) (AfterSave.errand?_next after))
  | took h => exact .of_took _ h

end ProjectViews
