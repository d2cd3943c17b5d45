/-
Loading a list page by page.

A server has a chain of pages for each question, and its requests may fail.  At any time of any
run the pages that a view has taken in for the present generation are the first ones of the chain
for its question, and its cursor asks for the one behind them: that is `Paged`.  What carries it
is that whoever is out for the present generation is out for just that page.  So there is a page
for every request that is out, a failed request leaves everything as it was, and the next one asks
for the same page again.

Behind the last page there is no cursor, and before the first one has come there is none either.
In both cases nothing is asked for: a view whose first page has failed has nothing to ask for until
it is asked anew, `Dry`.

The rows are those of the pages, the first one of each project, unless projects were changed or
deleted elsewhere since the generation began.
-/
import Mathlib.Data.List.Induction
import ProjectViews.Proofs.View.Chain
import ProjectViews.Proofs.View.Intact
import ProjectViews.Proofs.View.Rows
import ProjectViews.Proofs.View.Sending
import ProjectViews.Proofs.View.Solo
import ProjectViews.Proofs.View.Tidings
import ProjectViews.Proofs.View.Validity

namespace ProjectViews

/-! ### The pages of a generation -/

/-- Whether the news is a page. -/
def News.isPage : News → Bool
  | page _ _ => true
  | changed _ | deleted _ => false

/-- How many pages a view has taken in for a generation. -/
def pagesIn (past : List Moment) (generation : Nat) : Nat :=
  (newsOf past generation).countP News.isPage

/-- The pages that a view has taken in are those that a catalogue has for their requests. -/
def Served (catalogue : Catalogue) (past : List Moment) : Prop :=
  ∀ generation query page, .page query page ∈ newsOf past generation →
    catalogue.page? query = some page

section Counting

variable {r : Registry} {past : List Moment} {s : Store} {m : Move} {t : Store × List Output}

theorem isPage_of_noPage (noPage : ∀ query page, s.news? m ≠ some (.page query page)) :
    ∀ n ∈ (s.news? m).toList, n.isPage = false := by
  intro n hn
  have hnews : s.news? m = some n := Option.mem_toList.mp hn
  cases n with
  | page query page => exact absurd hnews (noPage query page)
  | changed row => rfl
  | deleted uid => rfl

/-- A move by which no generation begins and no page comes. -/
theorem pagesIn_of_noPage (generation : t.1.state.generation = s.state.generation)
    (noPage : ∀ query page, s.news? m ≠ some (.page query page)) :
    pagesIn (past ++ [⟨s, m, t.2, t.1⟩]) t.1.state.generation
      = pagesIn past s.state.generation := by
  have hcount : (s.news? m).toList.countP News.isPage = 0 :=
    List.countP_eq_zero.mpr fun n hn => Bool.eq_false_iff.mp (isPage_of_noPage noPage n hn)
  rw [generation, pagesIn, pagesIn, newsOf_present, List.countP_append, hcount, Nat.add_zero]

theorem pagesIn_of_page (generation : t.1.state.generation = s.state.generation) {query : Query}
    {page : RowPage} (news : s.news? m = some (.page query page)) :
    pagesIn (past ++ [⟨s, m, t.2, t.1⟩]) t.1.state.generation
      = pagesIn past s.state.generation + 1 := by
  rw [generation, pagesIn, pagesIn, newsOf_present, news, List.countP_append]
  rfl

theorem pagesIn_of_begun (h : Reached r past s)
    (generation : t.1.state.generation = s.state.generation + 1) :
    pagesIn (past ++ [⟨s, m, t.2, t.1⟩]) t.1.state.generation = 0 := by
  rw [generation, pagesIn, h.newsOf_begun]
  rfl

/-- News that are no page bring no rows of a page. -/
theorem rows_of_isPage {n : News} (h : n.isPage = false) : n.rows = [] := by
  cases n with
  | page query page => cases h
  | changed row => rfl
  | deleted uid => rfl

theorem pageRows_of_noPage (generation : t.1.state.generation = s.state.generation)
    (noPage : ∀ query page, s.news? m ≠ some (.page query page)) :
    pageRows (newsOf (past ++ [⟨s, m, t.2, t.1⟩]) t.1.state.generation)
      = pageRows (newsOf past s.state.generation) := by
  have hrows : (s.news? m).toList.flatMap News.rows = [] :=
    List.flatMap_eq_nil_iff.mpr fun n hn => rows_of_isPage (isPage_of_noPage noPage n hn)
  rw [generation, newsOf_present, pageRows, pageRows, List.flatMap_append, hrows, List.append_nil]

/-- What was served until now was served before. -/
theorem Served.before {catalogue : Catalogue} {x : Moment} (h : Served catalogue (past ++ [x])) :
    Served catalogue past :=
  fun generation query page hmem => h generation query page (mem_newsOf_concat x hmem)

/-- A page that comes now is served. -/
theorem Served.now {catalogue : Catalogue} (h : Served catalogue (past ++ [⟨s, m, t.2, t.1⟩]))
    {query : Query} {page : RowPage} (news : s.news? m = some (.page query page)) :
    catalogue.page? query = some page := by
  refine h s.state.generation query page ?_
  rw [newsOf_present, news]
  exact List.mem_append_right _ (List.mem_singleton_self _)

end Counting

/-! ### The invariant -/

/-- The pages of the present generation are the first ones of the chain for its question. -/
structure Paged (catalogue : Catalogue) (past : List Moment) (s : Store) : Prop where
  /-- There are that many. -/
  le : pagesIn past s.state.generation ≤ (catalogue s.state.question).length
  /-- Their rows are those of the first pages. -/
  rows : pageRows (newsOf past s.state.generation)
    = ((catalogue s.state.question).pages.take (pagesIn past s.state.generation)).flatMap (·.rows)
  /-- The cursor asks for the page behind them. -/
  cursor : s.state.cursor = (catalogue s.state.question).cursor? (pagesIn past s.state.generation)
  /-- While somebody is out for the present generation, there is such a page. -/
  out : ∀ {u : Nat} {q : Query}, s.errand? u = some (s.state.generation, q) →
    pagesIn past s.state.generation < (catalogue s.state.question).length

namespace Paged

variable {catalogue : Catalogue} {r : Registry} {past : List Moment} {s : Store} {m : Move}
  {t : Store × List Output}

theorem empty (catalogue : Catalogue) (r : Registry) : Paged catalogue [] (.empty r) where
  le := Nat.zero_le _
  rows := rfl
  cursor := rfl
  out := fun h => by cases h

/-- A move by which no generation begins and no page comes only has to account for those who are
out. -/
theorem still (h : Paged catalogue past s)
    (generation : t.1.state.generation = s.state.generation)
    (question : t.1.state.question = s.state.question)
    (cursor : t.1.state.cursor = s.state.cursor)
    (noPage : ∀ query page, s.news? m ≠ some (.page query page))
    (out : ∀ {u : Nat} {q : Query}, t.1.errand? u = some (s.state.generation, q) →
      pagesIn past s.state.generation < (catalogue s.state.question).length) :
    Paged catalogue (past ++ [⟨s, m, t.2, t.1⟩]) t.1 := by
  have hcount : pagesIn (past ++ [⟨s, m, t.2, t.1⟩]) t.1.state.generation
      = pagesIn past s.state.generation := pagesIn_of_noPage generation noPage
  constructor
  · rw [hcount, question]
    exact h.le
  · rw [hcount, question, pageRows_of_noPage generation noPage]
    exact h.rows
  · rw [hcount, question, cursor]
    exact h.cursor
  · intro u q he
    rw [hcount, question]
    exact out (generation ▸ he)

/-- A page of the present generation is the one behind the others. -/
theorem next (h : Paged catalogue past s) (hr : Reached r past s)
    (served : Served catalogue (past ++ [⟨s, m, t.2, t.1⟩])) {task : Nat} {query : Query}
    {page : RowPage} (errand : s.errand? task = some (s.state.generation, query))
    (news : s.news? m = some (.page query page)) :
    (catalogue s.state.question).pages[pagesIn past s.state.generation]? = some page := by
  have hquery : query = s.state.query s.state.cursor := hr.pending task query errand
  have hpage : catalogue.page? query = some page := served.now news
  rw [Catalogue.page?, hquery, show (s.state.query s.state.cursor).question = s.state.question
    from rfl, show (s.state.query s.state.cursor).cursor = s.state.cursor from rfl, h.cursor,
    Chain.page?_cursor? (h.out errand)] at hpage
  exact hpage

/-- Every move keeps it. -/
theorem passage (h : Paged catalogue past s) (hr : Reached r past s)
    (served : Served catalogue (past ++ [⟨s, m, t.2, t.1⟩])) (p : Passage s m t.1) :
    Paged catalogue (past ++ [⟨s, m, t.2, t.1⟩]) t.1 := by
  cases p with
  | rests generation loading question seen cursor rows noPage errands =>
      refine h.still generation question cursor noPage fun {u q} he => ?_
      rw [errands] at he
      exact h.out he
  | begins generation loading rows seen cursor free news errands =>
      have hcount := pagesIn_of_begun (m := m) hr generation
      refine ⟨?_, ?_, ?_, ?_⟩
      · rw [hcount]
        exact Nat.zero_le _
      · rw [hcount, generation, hr.newsOf_begun]
        rfl
      · rw [hcount, cursor]
        rfl
      · intro u q _
        rw [hcount]
        exact (catalogue t.1.state.question).nonempty
  | @continues task cursor state idle more free news errands =>
      refine h.still (by rw [state]) (by rw [state]; rfl) (by rw [state])
        (fun query page hnews => by simp [news] at hnews) fun {u q} he => ?_
      -- there is a page behind a cursor
      have hsome := (catalogue s.state.question).cursor?_isSome_iff h.le
      rw [← h.cursor, more] at hsome
      exact (hsome.mp rfl).2
  | @stale task generation query answer move errand old state news errands =>
      refine h.still (by rw [state]) (by rw [state]) (by rw [state])
        (fun query page hnews => by simp [news] at hnews) fun {u q} he => ?_
      rw [errands] at he
      split at he
      · cases he
      · exact h.out he
  | @fails task query failure move errand state news errands =>
      refine h.still (by rw [state]) (by rw [state]; rfl) (by rw [state])
        (fun query page hnews => by simp [news] at hnews) fun {u q} he => ?_
      rw [errands] at he
      split at he
      · cases he
      · exact h.out he
  | @page task query page move errand state news errands =>
      have hgeneration : t.1.state.generation = s.state.generation := by rw [state]; rfl
      have hquestion : t.1.state.question = s.state.question := by rw [state]; rfl
      have hcount : pagesIn (past ++ [⟨s, m, t.2, t.1⟩]) t.1.state.generation
          = pagesIn past s.state.generation + 1 := pagesIn_of_page hgeneration news
      have hpage := h.next hr served errand news
      refine ⟨?_, ?_, ?_, ?_⟩
      · rw [hcount, hquestion]
        exact h.out errand
      · rw [hcount, hquestion, hgeneration, newsOf_present, news, pageRows,
          List.flatMap_append, Chain.flatMap_take_succ hpage, ← h.rows]
        simp [pageRows, News.rows]
      · rw [hcount, hquestion, Chain.cursor?_succ_of_page hpage, state]
      · intro u q he
        rw [errands, hgeneration] at he
        -- the one that was out has its answer, and nobody else was out
        by_cases hu : u = task
        · rw [if_pos hu] at he
          cases he
        · rw [if_neg hu] at he
          exact absurd (hr.oneEach.unique ⟨q, he⟩ ⟨query, errand⟩) hu

end Paged

/-- **At any time the pages of the present generation are the first ones of their chain.** -/
theorem Reached.paged {r : Registry} {past : List Moment} {s : Store} (h : Reached r past s)
    {catalogue : Catalogue} (served : Served catalogue past) : Paged catalogue past s := by
  induction h with
  | empty => exact .empty catalogue r
  | step hr e ih => exact (ih served.before).passage hr served e.passage

/-! ### The flag for the first page -/

/-- The flag goes down when a generation begins, up when a page comes, and stays otherwise. -/
theorem Effect.firstPage_cases {s : Store} {m : Move} {t : Store × List Output}
    (e : Effect s m t) :
    (t.1.state.generation = s.state.generation + 1 ∧ t.1.state.isFirstLoadComplete = false) ∨
      t.1.state.generation = s.state.generation ∧
        ((t.1.state.isFirstLoadComplete = s.state.isFirstLoadComplete ∧
            ∀ query page, s.news? m ≠ some (.page query page)) ∨
          t.1.state.isFirstLoadComplete = true ∧
            ∃ query page, s.news? m = some (.page query page)) := by
  cases e with
  | ignored hignores => exact Or.inr ⟨rfl, Or.inl ⟨rfl, by simp [Store.news?_of_ignores hignores]⟩⟩
  | @entered task op free =>
      have noPage : ∀ query page, s.news? (.enter task op) ≠ some (.page query page) := by
        intro query page
        rw [Store.news?, free]
        exact op.news?_ne_page query page
      cases (op.commits s.registry s.state).announces with
      | nothing state events =>
          rw [Store.put_state, state]
          exact Or.inr ⟨rfl, Or.inl ⟨rfl, noPage⟩⟩
      | change generation loaded events => exact Or.inr ⟨generation, Or.inl ⟨loaded, noPage⟩⟩
      | reset generation blank events => exact Or.inl ⟨generation, blank⟩
  | ended => exact Or.inr ⟨rfl, Or.inl ⟨rfl, by simp [Store.news?]⟩⟩
  | asked => exact Or.inr ⟨rfl, Or.inl ⟨rfl, by simp [Store.news?]⟩⟩
  | joined => exact Or.inr ⟨rfl, Or.inl ⟨rfl, by simp [Store.news?]⟩⟩
  | handed => exact Or.inr ⟨rfl, Or.inl ⟨rfl, by simp [Store.news?]⟩⟩
  | saved => exact Or.inr ⟨rfl, Or.inl ⟨rfl, by simp [Store.news?]⟩⟩
  | @took task answer generation query hstage =>
      rw [Store.put_state]
      by_cases hnow : s.state.generation = generation
      · subst hnow
        cases answer with
        | ok page =>
            rw [ViewState.receive_page]
            refine Or.inr ⟨rfl, Or.inr ⟨rfl, query, page, ?_⟩⟩
            rw [Store.news?, hstage]
            exact if_pos rfl
        | error failure =>
            rw [ViewState.receive_failure]
            exact Or.inr ⟨rfl, Or.inl ⟨rfl, by simp [Store.news?]⟩⟩
      · rw [ViewState.receive_stale _ _ hnow]
        refine Or.inr ⟨rfl, Or.inl ⟨rfl, ?_⟩⟩
        cases answer with
        | error failure => simp [Store.news?]
        | ok page => simp [Store.news?, hstage, hnow]

/-- The flag for the first page is up just when the generation has one. -/
theorem Reached.isFirstLoadComplete_eq {r : Registry} {past : List Moment} {s : Store}
    (h : Reached r past s) :
    s.state.isFirstLoadComplete = decide (0 < pagesIn past s.state.generation) := by
  induction h with
  | empty => rfl
  | step hr e ih =>
      rcases e.firstPage_cases with
        ⟨generation, blank⟩ | ⟨generation, ⟨kept, noPage⟩ | ⟨up, _, _, news⟩⟩
      · rw [pagesIn_of_begun hr generation, blank]
        rfl
      · rw [pagesIn_of_noPage generation noPage, kept, ih]
      · rw [pagesIn_of_page generation news, up]
        exact (decide_eq_true (Nat.succ_pos _)).symm

/-! ### The rows -/

/-- Pages alone make the first row of each project. -/
theorem replay_of_pages {news : List News} (h : ∀ n ∈ news, n.isPage = true) :
    replay news = firstOfEach (pageRows news) := by
  induction news using List.reverseRecOn with
  | nil => rfl
  | append_singleton news n ih =>
      have hn := h n (List.mem_append_right _ (List.mem_singleton_self n))
      have hnews := ih fun n' hn' => h n' (List.mem_append_left _ hn')
      cases n with
      | changed row => cases hn
      | deleted uid => cases hn
      | page query page =>
          have happend : pageRows (news ++ [.page query page]) = pageRows news ++ page.rows := by
            simp [pageRows, News.rows]
          have hlanded : ∀ uid, uid ∈ landed news ↔ uid ∈ (pageRows news).map (·.uid) :=
            fun _ => Iff.rfl
          rw [happend, replay_concat_page hlanded, hnews, firstOfEach_append _ _ hlanded]

/-- **A view that has learnt of nothing but pages shows the first ones of its chain.** -/
theorem Reached.shows {r : Registry} {past : List Moment} {s : Store} (h : Reached r past s)
    {catalogue : Catalogue} (served : Served catalogue past)
    (pagesOnly : ∀ n ∈ newsOf past s.state.generation, n.isPage = true) :
    Shows (catalogue s.state.question) (pagesIn past s.state.generation) s.state := by
  have hpaged := h.paged served
  refine ⟨hpaged.le, ?_, ?_, hpaged.cursor, h.isFirstLoadComplete_eq⟩
  · rw [h.replayed.rows, replay_of_pages pagesOnly, hpaged.rows, Chain.rows]
  · intro uid
    rw [h.replayed.seen, landed, hpaged.rows]

/-! ### Asking for more -/

namespace Operation

variable {r : Registry} {s : ViewState}

end Operation

/-- What a call for further pages sends, and what it returns. -/
structure FurtherCall where
  sent : List Query
  outcome : FetchOutcome

namespace Chain

/-- How many pages there are after a call, when there were so many before. -/
def after (c : Chain) (k : Nat) : Option Failure → Nat
  | some _ => k
  | none => min (k + 1) c.length

/-- What is said of a page that has come behind so many others. -/
def loaded (c : Chain) (generation k : Nat) : FetchOutcome :=
  let added := (c.rows (k + 1)).length - (c.rows k).length
  let all := ((c.pages[k]?).map (·.rows.length)).getD 0
  .loaded generation added (all - added) (decide (k + 1 < c.length))

/-- A call when there are so many pages: it asks for the next one, or for nothing when there is
none. -/
def call (c : Chain) (question : Query) (generation k : Nat) (failure : Option Failure) :
    FurtherCall :=
  if k < c.length then
    ⟨[{ question with cursor := c.cursor? k }],
      match failure with
      | some failure => .failed failure
      | none => c.loaded generation k⟩
  else ⟨[], .skipped⟩

/-- Calls one after the other. -/
def calls (c : Chain) (question : Query) (generation : Nat) :
    Nat → List (Option Failure) → List FurtherCall
  | _, [] => []
  | k, failure :: rest =>
    c.call question generation k failure :: c.calls question generation (c.after k failure) rest

end Chain

/-- What a request is answered: by the page that a catalogue has, unless it fails. -/
def Catalogue.answer (catalogue : Catalogue) (query : Query) :
    Option Failure → Except Failure RowPage
  | some failure => .error failure
  | none =>
    match catalogue.page? query with
    | some page => .ok page
    | none => .error default

/-- A call for further pages, from its start to its end. -/
def Store.call (catalogue : Catalogue) (task : Nat) (s : Store) (failure : Option Failure) :
    Store × List Output :=
  let (s, outputs) := s.start task .fetchMore
  match requestsOf task outputs with
  | [] => (s, outputs)
  | query :: _ =>
    let (s, more) := s.answered task (catalogue.answer query failure)
    (s, outputs ++ more)

/-- Calls one after the other, and what each of them gives to the outside. -/
def Store.calls (catalogue : Catalogue) (task : Nat) :
    Store → List (Option Failure) → Store × List (List Output)
  | s, [] => (s, [])
  | s, failure :: rest =>
    let (s, outputs) := s.call catalogue task failure
    let (s, later) := s.calls catalogue task rest
    (s, outputs :: later)

/-- A view shows some pages of its chain and nobody is loading any. -/
structure Waits (catalogue : Catalogue) (k : Nat) (s : ViewState) : Prop where
  shows : Shows (catalogue s.question) k s
  idle : s.isLoading = false

/-- A page that comes is one more, and it is said of what has come of it. -/
theorem Shows.receive_outcome {c : Chain} {k : Nat} {s : ViewState} {page : RowPage}
    (h : Shows c k s) (hpage : c.pages[k]? = some page) :
    (s.receive s.generation (.ok page)).2.2 = c.loaded s.generation k := by
  have hrows := (h.receive hpage).rows
  rw [ViewState.receive_page] at hrows ⊢
  have hnew : (c.rows (k + 1)).length - (c.rows k).length
      = (ViewState.newRows s.seen page.rows).length := by
    rw [← hrows, ← h.rows]
    simp [ViewState.appendPage]
  have hmore : page.next.isSome = decide (k + 1 < c.length) := by
    rw [Bool.eq_iff_iff, c.linked k page hpage, decide_eq_true_iff]
    exact Iff.rfl
  rw [Chain.loaded, hnew, hpage, hmore]
  rfl

theorem ViewState.receive_idle (s : ViewState) (answer : Except Failure RowPage) :
    (s.receive s.generation answer).1.isLoading = false := by
  cases answer with
  | ok page => rw [receive_page]
  | error failure => rw [receive_failure]

/-- When the page comes that was asked for, the view waits with one page more. -/
theorem Waits.receive {catalogue : Catalogue} {k : Nat} {s : ViewState} {page : RowPage}
    (h : Waits catalogue k s) (hpage : (catalogue s.question).pages[k]? = some page) :
    let t := { s with isLoading := true }.receive s.generation (.ok page)
    Waits catalogue (k + 1) t.1 ∧ t.1.question = s.question ∧ t.1.generation = s.generation ∧
      t.2.2 = (catalogue s.question).loaded s.generation k := by
  intro t
  have hloading : Shows (catalogue s.question) k { s with isLoading := true } :=
    h.shows.congr rfl rfl rfl rfl
  obtain ⟨hgeneration, -, hquestion, -⟩ :=
    ViewState.receive_keeps { s with isLoading := true } s.generation (.ok page)
  have hshows : Shows (catalogue s.question) (k + 1) t.1 := hloading.receive hpage
  refine ⟨⟨?_, ?_⟩, hquestion, hgeneration, hloading.receive_outcome hpage⟩
  · exact hquestion.symm ▸ hshows
  · exact ViewState.receive_idle { s with isLoading := true } (.ok page)

section Calls

variable {catalogue : Catalogue} {task k : Nat} {s : Store}

end Calls

/-! ### Nothing to ask for -/

section Dry

variable {r : Registry} {past : List Moment} {s : Store}

/-- A view that is set up is only asked anew by other filters, another order or a reload. -/
theorem Reached.not_renews (h : Reached r past s) (begun : 0 < s.state.generation) {m : Move}
    (hm : ∀ u op, m = .enter u op → op.asksAnew = false ∧ op ≠ .reload) : ¬ s.Renews m := by
  rintro ⟨task, op, rfl, -, renews, granted⟩
  obtain ⟨hasks, hreload⟩ := hm task op rfl
  have hset : s.state.uid ≠ none := by
    intro hunset
    rw [h.begun.unset hunset] at begun
    exact Nat.lt_irrefl 0 begun
  cases op with
  | setUp uid baseQuery fields saved =>
      cases (Operation.setUp uid baseQuery fields saved).verdict s.registry s.state with
      | refused forbidden v commit => exact granted v (by rw [commit]; rfl)
      | granted allowed => exact allowed hset
  | setFilters filters => cases hasks
  | setOrder order => cases hasks
  | reload => exact hreload rfl
  | setFields fields => cases renews
  | resetFields => cases renews
  | hideField field => cases renews
  | fetchMore => cases renews
  | projectChanged row => cases renews
  | projectDeleted uid => cases renews

/-- A view without a cursor that is not loading. -/
structure Dry (s : ViewState) : Prop where
  idle : s.isLoading = false
  cursor : s.cursor = none

/-- It stays without one as long as it is not asked anew. -/
theorem Dry.step (hdry : Dry s.state) (h : Reached r past s) (begun : 0 < s.state.generation)
    {m : Move} {t : Store × List Output} (e : Effect s m t)
    (hm : ∀ u op, m = .enter u op → op.asksAnew = false ∧ op ≠ .reload) :
    Dry t.1.state ∧ t.1.state.generation = s.state.generation := by
  have hgeneration := e.generation_of_not_renews (h.not_renews begun hm)
  refine ⟨?_, hgeneration⟩
  have hnobody : ∀ u q, s.errand? u ≠ some (s.state.generation, q) := by
    intro u q he
    have hloading := h.oneEach.loading.mpr ⟨u, q, he⟩
    simp [hdry.idle] at hloading
  cases e.passage with
  | rests _ loading _ _ cursor => exact ⟨loading.trans hdry.idle, cursor.trans hdry.cursor⟩
  | begins generation => omega
  | continues _ _ more => simp [hdry.cursor] at more
  | stale _ _ _ state =>
      rw [state]
      exact hdry
  | page _ errand => exact absurd errand (hnobody _ _)
  | fails _ errand => exact absurd errand (hnobody _ _)

theorem Dry.run (hdry : Dry s.state) (h : Reached r past s) (begun : 0 < s.state.generation)
    {later : List Move}
    (hlater : ∀ u op, .enter u op ∈ later → op.asksAnew = false ∧ op ≠ .reload) :
    Dry (s.run later).state := by
  induction later generalizing past s with
  | nil => exact hdry
  | cons m rest ih =>
      obtain ⟨hstep, hgeneration⟩ := hdry.step h begun (effect_step s m)
        fun u op hop => hlater u op (hop ▸ List.mem_cons_self)
      exact ih hstep (h.step (effect_step s m)) (hgeneration ▸ begun)
        fun u op hop => hlater u op (List.mem_cons_of_mem _ hop)

end Dry

/-! ### The rule of pages -/

end ProjectViews
