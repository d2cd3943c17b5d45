/-
What an operation does to a view when it commits, and what an answer does.

There are ten operations but only a few kinds of change, and `Commits` lists them: a
commit leaves the view alone, sets it up, gives it another question, asks the same
question again, changes its fields, asks for one more page, or takes note of what
happened to a project elsewhere.  Nothing further on looks into the operations
themselves.

`Fetches` is the same list as it looks to someone who only cares for pages.  Either a
new generation begins, empty and with a request for its first page; or the next page of
the present one is asked for, which only happens while none is being loaded; or nothing
is asked of the server at all, and then the question, the cursor and the uids seen so
far stay as they are.
-/
import ProjectViews.View.Operation

namespace ProjectViews

/-- What a request asks, whichever page of the answer it is for. -/
def Query.question (q : Query) : Query := { q with cursor := none }

/-- What a view asks the server: its base query, its filters and its order. -/
def ViewState.question (s : ViewState) : Query := ⟨s.baseQuery, s.filters, s.order, none⟩

/-- What a view learns about projects: a page of them came, one was changed or one was
deleted. -/
inductive News where
  | page (query : Query) (page : RowPage)
  | changed (row : Row)
  | deleted (uid : String)

/-- What an operation tells the view about projects. -/
def Operation.news? : Operation → Option News
  | projectChanged row => some (.changed row)
  | projectDeleted uid => some (.deleted uid)
  | _ => none

/-- Pages only come from the server. -/
theorem Operation.news?_ne_page (op : Operation) (query : Query) (page : RowPage) :
    op.news? ≠ some (.page query page) := by
  cases op <;> simp [news?]

/-- The request that is still to be made once the settings are saved. -/
def AfterSave.errand? : AfterSave → Option (Nat × Query)
  | finish => none
  | fetch generation query => some (generation, query)

/-- The request that an operation is going to make, and the generation it is for. -/
def Next.errand? : Next → Option (Nat × Query)
  | done _ => none
  | save _ after => after.errand?
  | fetch generation query => some (generation, query)

@[simp] theorem AfterSave.errand?_next (after : AfterSave) :
    after.next.errand? = after.errand? := by cases after <;> rfl

/-! ### Committing -/

/-- The rows with a new version of one of them, wherever it stands. -/
def replaceRow (row : Row) (rows : List Row) : List Row :=
  rows.map fun loaded => if loaded.uid == row.uid then row else loaded

/-- The rows without the one of a project. -/
def dropRow (uid : String) (rows : List Row) : List Row :=
  rows.filter fun loaded => loaded.uid != uid

/-- The rows after what was learnt of a change elsewhere. -/
def rowsAfter (rows : List Row) : Option News → List Row
  | some (.changed row) => replaceRow row rows
  | some (.deleted uid) => dropRow uid rows
  | _ => rows

/-- Whether the row of a project is loaded. -/
def ViewState.isLoaded (s : ViewState) (uid : String) : Bool := s.rows.any fun r => r.uid == uid

/-- The ways in which an operation commits. -/
inductive Commits (s : ViewState) : Operation → Commit → Prop
  /-- It is against the rules, or there is nothing to do. -/
  | idle {op : Operation} {result : Result} (news : op.news? = none)
      (plain : result = .fetched .skipped ∨ result = .fieldsSet ∨ ∃ v, result = .refused v) :
      Commits s op (.nothing s result)
  /-- The view is set up, as `s'`. -/
  | setUp {uid baseQuery : String} {fields : List Field} {saved : Option ViewSettings}
      {s' : ViewState} (fresh : s.uid = none) (named : s'.uid = some uid)
      (generation : s'.generation = s.generation) :
      Commits s (.setUp uid baseQuery fields saved) (.reset s' .fetch)
  /-- The view gets other filters or another order. -/
  | configure {op : Operation} {uid : String} {filters : List Filter} {order : Option Order}
      (isSetUp : s.uid = some uid) (news : op.news? = none) :
      Commits s op
        (.reset { s with filters := filters, order := order } fun g q => .save uid (.fetch g q))
  /-- The same question is asked again. -/
  | reload {uid : String} (isSetUp : s.uid = some uid) : Commits s .reload (.reset s .fetch)
  /-- The view shows other fields. -/
  | fields {op : Operation} {uid : String} {fields : List Field} (isSetUp : s.uid = some uid)
      (news : op.news? = none) :
      Commits s op ⟨{ s with visibleFields := fields }, [.stateChanged s.generation],
        .save uid .finish⟩
  /-- The next page is asked for. -/
  | more {cursor : Cursor} (idle : s.isLoading = false) (more : s.cursor = some cursor) :
      Commits s .fetchMore ⟨{ s with isLoading := true }, [.stateChanged s.generation],
        .fetch s.generation (s.query (some cursor))⟩
  /-- A project was changed; where it is not loaded that comes to nothing. -/
  | changed {row : Row} :
      Commits s (.projectChanged row) ⟨{ s with rows := replaceRow row s.rows },
        if s.isLoaded row.uid then [.stateChanged s.generation] else [],
        .done (.noticed (s.isLoaded row.uid))⟩
  /-- A project was deleted; where it is not loaded that comes to nothing. -/
  | deleted {uid : String} :
      Commits s (.projectDeleted uid) ⟨{ s with rows := dropRow uid s.rows },
        if s.isLoaded uid then [.stateChanged s.generation] else [],
        .done (.noticed (s.isLoaded uid))⟩

theorem ViewState.isLoaded_iff {s : ViewState} {uid : String} :
    s.isLoaded uid = true ↔ uid ∈ s.rows.map (·.uid) := by
  simp [isLoaded]

theorem replaceRow_of_not_loaded {s : ViewState} {row : Row}
    (h : s.isLoaded row.uid = false) : replaceRow row s.rows = s.rows := by
  rw [ViewState.isLoaded, List.any_eq_false] at h
  refine (List.map_congr_left fun loaded hloaded => ?_).trans (List.map_id s.rows)
  rw [if_neg (h loaded hloaded)]
  rfl

theorem dropRow_of_not_loaded {s : ViewState} {uid : String}
    (h : s.isLoaded uid = false) : dropRow uid s.rows = s.rows := by
  rw [ViewState.isLoaded, List.any_eq_false] at h
  refine List.filter_eq_self.mpr fun loaded hloaded => ?_
  simpa using h loaded hloaded

theorem commit_projectChanged (r : Registry) (s : ViewState) (row : Row) :
    (Operation.projectChanged row).commit r s = ⟨{ s with rows := replaceRow row s.rows },
      if s.isLoaded row.uid then [.stateChanged s.generation] else [],
      .done (.noticed (s.isLoaded row.uid))⟩ := by
  rw [Operation.commit]
  cases hloaded : s.isLoaded row.uid with
  | true => exact if_pos hloaded
  | false =>
      rw [replaceRow_of_not_loaded hloaded]
      exact if_neg (Bool.eq_false_iff.mp hloaded)

theorem commit_projectDeleted (r : Registry) (s : ViewState) (uid : String) :
    (Operation.projectDeleted uid).commit r s = ⟨{ s with rows := dropRow uid s.rows },
      if s.isLoaded uid then [.stateChanged s.generation] else [],
      .done (.noticed (s.isLoaded uid))⟩ := by
  rw [Operation.commit]
  cases hloaded : s.isLoaded uid with
  | true => exact if_pos hloaded
  | false =>
      rw [dropRow_of_not_loaded hloaded]
      exact if_neg (Bool.eq_false_iff.mp hloaded)

/-- A change of the fields is saved, or else it is none. -/
theorem commits_updateFields {s : ViewState} (op : Operation) (news : op.news? = none)
    (update : ViewState → List Field) : Commits s op (.updateFields s update) := by
  unfold Commit.updateFields
  split
  · exact .idle news (by simp)
  · rename_i uid huid
    split
    · exact .idle news (by simp)
    · exact .fields huid news

/-- **Every operation commits in one of these ways.** -/
theorem Operation.commits (r : Registry) (s : ViewState) (op : Operation) :
    Commits s op (op.commit r s) := by
  cases op with
  | setUp uid baseQuery fields saved =>
      simp only [commit]
      split
      · exact .idle rfl (by simp)
      · rename_i hfresh
        cases saved with
        | none => exact .setUp hfresh rfl rfl
        | some saved => exact .setUp hfresh rfl rfl
  | setFilters filters =>
      simp only [commit]
      split
      · exact .idle rfl (by simp)
      · split
        · exact .idle rfl (by simp)
        · rename_i uid huid
          exact .configure huid rfl
  | setOrder order =>
      simp only [commit]
      split
      · split
        · exact .idle rfl (by simp)
        · rename_i uid huid
          exact .configure huid rfl
      · exact .idle rfl (by simp)
  | setFields fields =>
      rw [commit]
      exact commits_updateFields (.setFields fields) rfl _
  | resetFields =>
      rw [commit]
      exact commits_updateFields .resetFields rfl _
  | hideField field =>
      rw [commit]
      exact commits_updateFields (.hideField field) rfl _
  | fetchMore =>
      simp only [commit]
      by_cases hloading : s.isLoading = true
      · rw [if_pos hloading]
        exact .idle rfl (by simp)
      · rw [if_neg hloading]
        split
        · exact .idle rfl (by simp)
        · rename_i cursor hcursor
          exact .more (by simpa using hloading) hcursor
  | reload =>
      simp only [commit]
      split
      · exact .idle rfl (by simp)
      · rename_i uid huid
        exact .reload huid
  | projectChanged row =>
      rw [commit_projectChanged]
      exact .changed
  | projectDeleted uid =>
      rw [commit_projectDeleted]
      exact .deleted

/-! ### Committing, as far as settings are concerned -/

/-- A view that is set up stays the same view. -/
theorem Commits.uid_of_some {s : ViewState} {op : Operation} {c : Commit} (h : Commits s op c)
    {uid : String} (hs : s.uid = some uid) : c.state.uid = some uid := by
  cases h with
  | setUp fresh => simp [fresh] at hs
  | idle => exact hs
  | configure => exact hs
  | reload => exact hs
  | fields => exact hs
  | more => exact hs
  | changed => exact hs
  | deleted => exact hs

/-- An operation that changes the settings is going to have them saved, unless it sets the
view up. -/
theorem Commits.settings_cases {s : ViewState} {op : Operation} {c : Commit}
    (h : Commits s op c) : c.state.settings = s.settings ∨ (∃ uid after, c.next = .save uid after) ∨
      s.uid = none ∧ ∃ uid baseQuery fields saved, op = .setUp uid baseQuery fields saved := by
  cases h with
  | setUp fresh => exact Or.inr (Or.inr ⟨fresh, _, _, _, _, rfl⟩)
  | configure => exact Or.inr (Or.inl ⟨_, _, rfl⟩)
  | fields => exact Or.inr (Or.inl ⟨_, _, rfl⟩)
  | idle => exact Or.inl rfl
  | reload => exact Or.inl rfl
  | more => exact Or.inl rfl
  | changed => exact Or.inl rfl
  | deleted => exact Or.inl rfl

/-- What is going to be saved is going to be saved for the view. -/
theorem Commits.uid_of_save {s : ViewState} {op : Operation} {c : Commit} (h : Commits s op c)
    {uid : String} {after : AfterSave} (hnext : c.next = .save uid after) :
    c.state.uid = some uid := by
  cases h with
  | configure isSetUp =>
      cases hnext
      exact isSetUp
  | fields isSetUp =>
      cases hnext
      exact isSetUp
  | idle => cases hnext
  | setUp => cases hnext
  | reload => cases hnext
  | more => cases hnext
  | changed => cases hnext
  | deleted => cases hnext

/-! ### Committing, as far as pages are concerned -/

/-- What a commit comes to for the pages of a view. -/
inductive Fetches (s : ViewState) (op : Operation) (c : Commit) : Prop
  /-- A new generation begins, and its first page is going to be asked for. -/
  | begins (generation : c.state.generation = s.generation + 1)
      (loading : c.state.isLoading = true) (rows : c.state.rows = []) (seen : c.state.seen = [])
      (cursor : c.state.cursor = none)
      (errand : c.next.errand? = some (s.generation + 1, c.state.question))
      (news : op.news? = none)
  /-- The next page of the present generation is going to be asked for. -/
  | continues {cursor : Cursor} (state : c.state = { s with isLoading := true })
      (idle : s.isLoading = false) (more : s.cursor = some cursor)
      (errand : c.next.errand? = some (s.generation, s.query (some cursor)))
      (news : op.news? = none)
  /-- Nothing is asked of the server. -/
  | asksNothing (generation : c.state.generation = s.generation)
      (loading : c.state.isLoading = s.isLoading) (question : c.state.question = s.question)
      (seen : c.state.seen = s.seen) (cursor : c.state.cursor = s.cursor)
      (rows : c.state.rows = rowsAfter s.rows op.news?)
      (errand : c.next.errand? = none)

theorem Commits.fetches {s : ViewState} {op : Operation} {c : Commit} (h : Commits s op c) :
    Fetches s op c := by
  cases h with
  | idle news _ => exact .asksNothing rfl rfl rfl rfl rfl (by rw [news]; rfl) rfl
  | setUp _ _ generation =>
      refine .begins ?_ rfl rfl rfl rfl ?_ rfl
      · rw [← generation]
        rfl
      · rw [← generation]
        rfl
  | configure _ news => exact .begins rfl rfl rfl rfl rfl rfl news
  | reload => exact .begins rfl rfl rfl rfl rfl rfl rfl
  | fields _ news => exact .asksNothing rfl rfl rfl rfl rfl (by rw [news]; rfl) rfl
  | more idle more => exact .continues rfl idle more rfl rfl
  | changed => exact .asksNothing rfl rfl rfl rfl rfl rfl rfl
  | deleted => exact .asksNothing rfl rfl rfl rfl rfl rfl rfl

/-! ### Taking an answer in

An answer says for which generation it was asked.  If that one is over, nothing at all
happens; otherwise the view stops loading, and a page leaves its new rows and its
cursor.
-/

namespace ViewState

variable (s : ViewState)

theorem receive_stale {generation : Nat} (answer : Except Failure RowPage)
    (h : s.generation ≠ generation) :
    s.receive generation answer = (s, [], .stale generation) := by
  unfold receive
  rw [if_pos h]

theorem receive_page (page : RowPage) :
    s.receive s.generation (.ok page)
      = ({ s.appendPage page.rows with
            isLoading := false, cursor := page.next, isFirstLoadComplete := true },
         (if s.isFirstLoadComplete then [] else [.firstLoadComplete s.generation])
            ++ [.stateChanged s.generation],
         .loaded s.generation (newRows s.seen page.rows).length
            (page.rows.length - (newRows s.seen page.rows).length) page.next.isSome) := by
  unfold receive
  rw [if_neg (not_not_intro rfl)]

theorem receive_failure (failure : Failure) :
    s.receive s.generation (.error failure)
      = ({ s with isLoading := false },
         [.error (failure.notification fetchContext), .stateChanged s.generation],
         .failed failure) := by
  unfold receive
  rw [if_neg (not_not_intro rfl)]

/-- An answer never begins a generation and never changes what is asked or shown. -/
theorem receive_keeps (generation : Nat) (answer : Except Failure RowPage) :
    (s.receive generation answer).1.generation = s.generation ∧
      (s.receive generation answer).1.uid = s.uid ∧
      (s.receive generation answer).1.question = s.question ∧
      (s.receive generation answer).1.settings = s.settings := by
  by_cases h : s.generation = generation
  · subst h
    cases answer with
    | ok page =>
        rw [receive_page]
        exact ⟨rfl, rfl, rfl, rfl⟩
    | error failure =>
        rw [receive_failure]
        exact ⟨rfl, rfl, rfl, rfl⟩
  · rw [receive_stale s answer h]
    exact ⟨rfl, rfl, rfl, rfl⟩

end ViewState

end ProjectViews
