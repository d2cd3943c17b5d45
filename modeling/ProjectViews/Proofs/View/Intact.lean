/-
What goes wrong leaves a view intact.

Two things can go wrong.  An operation may be forbidden: then it returns a violation, and
all else is as if it had never been started.  And a request may fail: then the view stops
loading and stays as it is otherwise, so that what was asked for can be asked for again.

That the second request is the same as the first is `Pending`.  While an operation is out
for a page of the present generation nobody else is, and only an answer of this generation
changes the cursor; so what the operation asks for is what the view would ask for now.
-/
import ProjectViews.Proofs.View.Loading
import ProjectViews.Proofs.View.Refusal

namespace ProjectViews

/-! ### Requests that are out -/

/-- Whoever is out for a page of the present generation asks for the one behind the
cursor, or for the first one when there is none. -/
def Pending (s : Store) : Prop :=
  ∀ u q, s.errand? u = some (s.state.generation, q) → q = s.state.query s.state.cursor

theorem ViewState.query_eq (s : ViewState) (cursor : Option Cursor) :
    s.query cursor = { s.question with cursor := cursor } := rfl

namespace Pending

theorem empty (r : Registry) : Pending (.empty r) := by
  intro u q h
  cases h

/-- A move that leaves the view as far as requests are concerned, and adds none. -/
theorem still {s t : Store} (h : Pending s) (generation : t.state.generation = s.state.generation)
    (question : t.state.question = s.state.question) (cursor : t.state.cursor = s.state.cursor)
    (errands : ∀ u e, t.errand? u = some e → s.errand? u = some e) : Pending t := by
  intro u q he
  rw [generation] at he
  rw [h u q (errands u _ he), ViewState.query_eq, ViewState.query_eq, question, cursor]

/-- Every move keeps it. -/
theorem passage {s t : Store} {m : Move} (h : Pending s) (one : OneEach s) (p : Passage s m t) :
    Pending t := by
  cases p with
  | rests generation loading question seen cursor rows noPage errands =>
      exact h.still generation question cursor fun u e he => (errands u).symm.trans he
  | @begins task generation loading rows seen cursor free news errands =>
      intro u q he
      rw [errands, generation] at he
      by_cases hu : u = task
      · rw [if_pos hu] at he
        cases he
        rw [cursor]
        rfl
      · -- nobody is out yet for a generation that begins
        rw [if_neg hu] at he
        exact absurd (one.begun ⟨q, he⟩) (Nat.not_succ_le_self _)
  | @continues task cursor state idle more free news errands =>
      intro u q he
      rw [errands, state] at he
      by_cases hu : u = task
      · rw [if_pos hu] at he
        cases he
        rw [state]
        show s.state.query (some cursor) = s.state.query s.state.cursor
        rw [more]
      · rw [if_neg hu] at he
        rw [state]
        exact h u q he
  | stale move errand old state news errands =>
      refine h.still (by rw [state]) (by rw [state]) (by rw [state]) fun u e he => ?_
      rw [errands] at he
      split at he
      · cases he
      · exact he
  | @page task query page move errand state news errands =>
      intro u q he
      have hgeneration : t.state.generation = s.state.generation := by rw [state]; rfl
      rw [errands, hgeneration] at he
      -- the one that was out for the present generation has its answer
      by_cases hu : u = task
      · rw [if_pos hu] at he
        cases he
      · rw [if_neg hu] at he
        exact absurd (one.unique ⟨q, he⟩ ⟨query, errand⟩) hu
  | fails move errand state news errands =>
      refine h.still (by rw [state]) (by rw [state]; rfl) (by rw [state]) fun u e he => ?_
      rw [errands] at he
      split at he
      · cases he
      · exact he

end Pending

/-- It holds in every store that a run reaches. -/
theorem Reached.pending {r : Registry} {past : List Moment} {s : Store} (h : Reached r past s) :
    Pending s := by
  induction h with
  | empty => exact .empty r
  | step hr e ih => exact ih.passage hr.oneEach e.passage

/-- An operation keeps the errand it was started with until it has none. -/
theorem Effect.errand?_cases {s : Store} {m : Move} {t : Store × List Output} (e : Effect s m t)
    {task : Nat} (hm : ∀ op, m ≠ .enter task op) :
    t.1.errand? task = s.errand? task ∨ t.1.errand? task = none := by
  cases e with
  | ignored => exact Or.inl rfl
  | @entered u op _ =>
      have hu : task ≠ u := fun h => hm op (h ▸ rfl)
      exact Or.inl ((Store.errand?_put _ u task _).trans (if_neg hu))
  | @ended u events result _ =>
      rw [Store.errand?_leave]
      by_cases hu : task = u
      · exact Or.inr (if_pos hu)
      · exact Or.inl (if_neg hu)
  | asked h =>
      refine Or.inl (Store.errand?_put_of_eq h ?_ task)
      rfl
  | joined h =>
      refine Or.inl (Store.errand?_put_of_eq h ?_ task)
      rfl
  | handed h =>
      refine Or.inl (Store.errand?_put_of_eq h ?_ task)
      rfl
  | @saved u _ _ _ after h =>
      have hline : { s with line := s.line.drop 1 }.stage? u = s.stage? u := rfl
      refine Or.inl (Store.errand?_put_of_eq (hline.trans h) ?_ task)
      exact AfterSave.errand?_next after
  | @took u answer generation query _ =>
      rw [Store.errand?_put]
      by_cases hu : task = u
      · exact Or.inr (if_pos hu)
      · exact Or.inl (if_neg hu)

theorem errand?_run_cases {s : Store} {task : Nat} {moves : List Move}
    (hm : ∀ op, .enter task op ∉ moves) :
    (s.run moves).errand? task = s.errand? task ∨ (s.run moves).errand? task = none := by
  induction moves generalizing s with
  | nil => exact Or.inl rfl
  | cons m rest ih =>
      have hrest := ih (s := (s.step m).1) fun op h => hm op (List.mem_cons_of_mem _ h)
      have hstep : (s.step m).1.errand? task = s.errand? task ∨ (s.step m).1.errand? task = none :=
        (effect_step s m).errand?_cases fun op h => hm op (h ▸ List.mem_cons_self)
      rcases hrest with hkept | hnone
      · rcases hstep with hkept' | hnone'
        · exact Or.inl (hkept.trans hkept')
        · exact Or.inr (hkept.trans hnone')
      · exact Or.inr hnone

/-! ### A view that is not loading -/

/-- Whether an operation asks the server for anything. -/
def Operation.asks : Operation → Bool
  | fetchMore => true
  | op => op.renews

/-- Two views that would ask for the same page next. -/
structure Alike (s t : ViewState) : Prop where
  generation : t.generation = s.generation
  loading : t.isLoading = s.isLoading
  question : t.question = s.question
  cursor : t.cursor = s.cursor

namespace Alike

theorem refl (s : ViewState) : Alike s s := ⟨rfl, rfl, rfl, rfl⟩

theorem trans {s t u : ViewState} (h : Alike s t) (h' : Alike t u) : Alike s u where
  generation := h'.generation.trans h.generation
  loading := h'.loading.trans h.loading
  question := h'.question.trans h.question
  cursor := h'.cursor.trans h.cursor

theorem query {s t : ViewState} (h : Alike s t) (cursor : Option Cursor) :
    t.query cursor = s.query cursor := by
  rw [ViewState.query_eq, ViewState.query_eq, h.question]

theorem updateFields (s : ViewState) (update : ViewState → List Field) :
    Alike s (Commit.updateFields s update).state := by
  unfold Commit.updateFields
  split
  · exact .refl s
  · split
    · exact .refl s
    · exact ⟨rfl, rfl, rfl, rfl⟩

/-- What does not ask the server leaves the next page as it is. -/
theorem commit (r : Registry) (s : ViewState) {op : Operation} (h : op.asks = false) :
    Alike s (op.commit r s).state := by
  cases op with
  | setFields fields => exact .updateFields s _
  | resetFields => exact .updateFields s _
  | hideField field => exact .updateFields s _
  | projectChanged row =>
      rw [commit_projectChanged]
      exact ⟨rfl, rfl, rfl, rfl⟩
  | projectDeleted uid =>
      rw [commit_projectDeleted]
      exact ⟨rfl, rfl, rfl, rfl⟩
  | setUp => cases h
  | setFilters => cases h
  | setOrder => cases h
  | fetchMore => cases h
  | reload => cases h

end Alike

/-- While the view is not loading, only an operation that asks the server changes what it
would ask for. -/
theorem Effect.alike_of_idle {s : Store} {m : Move} {t : Store × List Output} (e : Effect s m t)
    (one : OneEach s) (idle : s.state.isLoading = false)
    (hm : ∀ u op, m = .enter u op → op.asks = false) : Alike s.state t.1.state := by
  rcases e.state_cases with
    hstate | ⟨u, op, hop, -, hstate⟩ | ⟨task, answer, g, query, -, h, hstate⟩
  · rw [hstate]
    exact .refl _
  · rw [hstate]
    exact .commit s.registry s.state (hm u op hop)
  · rw [hstate, ViewState.receive_stale]
    · exact .refl _
    -- nobody is out for the present generation
    · rintro rfl
      have hloading := one.loading.mpr ⟨task, query, Store.errand?_of_stage? h⟩
      simp [idle] at hloading

theorem Reached.alike_of_idle {r : Registry} {past : List Moment} {s : Store}
    (h : Reached r past s) (idle : s.state.isLoading = false) {moves : List Move}
    (hm : ∀ u op, .enter u op ∈ moves → op.asks = false) : Alike s.state (s.run moves).state := by
  induction moves generalizing past s with
  | nil => exact .refl _
  | cons m rest ih =>
      have hstep := (effect_step s m).alike_of_idle h.oneEach idle fun u op hop =>
        hm u op (hop ▸ List.mem_cons_self)
      have hrest := ih (h.step (effect_step s m)) (hstep.loading.trans idle) fun u op hop =>
        hm u op (List.mem_cons_of_mem _ hop)
      exact hstep.trans hrest

/-- Asking for more asks for the page behind the cursor, or for nothing. -/
theorem errand?_fetchMore (r : Registry) (s : ViewState) :
    (Operation.fetchMore.commit r s).next.errand? = none ∨
      ∃ cursor, (Operation.fetchMore.commit r s).next.errand?
        = some (s.generation, s.query (some cursor)) := by
  simp only [Operation.commit]
  split
  · exact Or.inl rfl
  · split
    · exact Or.inl rfl
    · rename_i cursor _
      exact Or.inr ⟨cursor, rfl⟩

/-- An operation that asks for more and is still out asks for the page behind a cursor. -/
theorem cursor_of_fetchMore {s : Store} {task g : Nat} {q : Query} {wait : List Move}
    (free : s.stage? task = none) (hwait : ∀ op, .enter task op ∉ wait)
    (h : ((s.enter task .fetchMore).run wait).errand? task = some (g, q)) :
    ∃ cursor, q.cursor = some cursor := by
  have hentered : (s.enter task .fetchMore).errand? task
      = (Operation.fetchMore.commit s.registry s.state).next.errand? := by
    rw [Store.enter, free, Store.errand?_put, if_pos rfl]
    rfl
  rcases errand?_run_cases hwait with hkept | hnone
  · rw [h, hentered] at hkept
    rcases errand?_fetchMore s.registry s.state with hskipped | ⟨cursor, hasked⟩
    · simp [hskipped] at hkept
    · rw [hasked] at hkept
      cases hkept
      exact ⟨cursor, rfl⟩
  · cases hnone.symm.trans h

/-- A view that is not loading and has a cursor asks for more when it is told to. -/
theorem goOn_fetchMore {s : Store} {task : Nat} {cursor : Cursor} (free : s.stage? task = none)
    (idle : s.state.isLoading = false) (more : s.state.cursor = some cursor) :
    ((s.enter task .fetchMore).goOn task).2
      = [.event (.stateChanged s.state.generation),
          .request task (s.state.query (some cursor))] := by
  have hcommit : Operation.fetchMore.commit s.registry s.state
      = ⟨{ s.state with isLoading := true }, [.stateChanged s.state.generation],
          .fetch s.state.generation (s.state.query (some cursor))⟩ := by
    simp [Operation.commit, idle, more]
  rw [Store.enter, free]
  simp only [hcommit]
  rw [Store.goOn, Store.stage?_put_self]
  rfl

/-- A failed request of the present generation lowers the flag and changes nothing else. -/
theorem take_failure {s : Store} {task : Nat} {q : Query} (failure : Failure)
    (h : s.stage? task = some (.fetching s.state.generation q)) :
    (s.take task (.error failure)).state = { s.state with isLoading := false } := by
  rw [Store.take, h]
  show (s.state.receive s.state.generation (.error failure)).1 = _
  rw [ViewState.receive_failure]

/-! ### Violations are returned at once or never -/

/-- An operation that was not refused when it committed is not refused later. -/
theorem Effect.not_refused {s : Store} {m : Move} {t : Store × List Output} (e : Effect s m t)
    {task : Nat} (hm : ∀ op, m ≠ .enter task op)
    (h : ∀ events v, s.stage? task ≠ some (.ready events (.done (.refused v)))) :
    ∀ events v, t.1.stage? task ≠ some (.ready events (.done (.refused v))) := by
  intro events v ht
  by_cases htask : task = m.task
  · subst htask
    cases e with
    | ignored => exact h events v ht
    | @entered u op _ => exact hm op rfl
    | ended => simp at ht
    | asked => simp at ht
    | joined => simp at ht
    | handed => simp at ht
    | @saved _ _ _ _ after _ =>
        rw [Move.task, Store.stage?_put_self] at ht
        cases after <;> simp [AfterSave.next] at ht
    | took => simp at ht
  · exact h events v ((e.stage?_of_ne htask).symm.trans ht)

theorem not_refused_of_run {s : Store} {task : Nat} {moves : List Move}
    (hm : ∀ op, .enter task op ∉ moves)
    (h : ∀ events v, s.stage? task ≠ some (.ready events (.done (.refused v)))) (v : Violation) :
    .finished task (.refused v) ∉ (s.play moves).2 := by
  induction moves generalizing s with
  | nil => simp [Store.play, Store.moments]
  | cons m rest ih =>
      intro hmem
      rcases List.mem_append.mp hmem with hnow | hlater
      · obtain ⟨events, hstage⟩ := (effect_step s m).finished hnow
        exact h events v hstage
      · refine ih (fun op hc => hm op (List.mem_cons_of_mem _ hc)) ?_ hlater
        exact (effect_step s m).not_refused (fun op hc => hm op (hc ▸ List.mem_cons_self)) h

/-! ### The rule of what goes wrong -/

/-- What becomes of a store when something goes wrong. -/
structure IntactRule (r : Registry) (s : Store) : Prop where
  /-- A forbidden operation returns a violation as soon as it goes on.  Whatever others did
  meanwhile came to the same as without it: the same store, and the same events, requests and
  settings handed over, and the same saves that returned. -/
  refused : ∀ task op, s.stage? task = none → op.Forbidden r s.state → ∃ v, ∀ wait,
    .goOn task ∉ wait →
      s.play (.enter task op :: (wait ++ [.goOn task]))
        = ((s.play (others task wait)).1,
           (s.play (others task wait)).2 ++ [.finished task (.refused v)]) ∧
      returned (s.moments (.enter task op :: (wait ++ [.goOn task])))
        = returned (s.moments (others task wait))
  /-- Any other operation never returns one. -/
  granted : ∀ task op, s.stage? task = none → ¬ op.Forbidden r s.state → ∀ later,
    (∀ op, .enter task op ∉ later) → ∀ v,
      .finished task (.refused v) ∉ (s.play (.enter task op :: later)).2
  /-- When a request of the present generation fails, the view stops loading, and that is
  all that changes. -/
  failed : ∀ task q failure, s.stage? task = some (.fetching s.state.generation q) →
    s.state.isLoading = true ∧
      (s.take task (.error failure)).state = { s.state with isLoading := false }
  /-- If an operation has asked for more and this has failed, then to ask for more again, as
  long as nothing else that asks the server was started since, makes the same request. -/
  again : ∀ task wait q failure later next,
    s.stage? task = none → (∀ op, .enter task op ∉ wait) →
    let t := (s.enter task .fetchMore).run wait
    t.stage? task = some (.fetching t.state.generation q) →
    (∀ u op, .enter u op ∈ later → op.asks = false) →
    let u := (t.take task (.error failure)).run later
    u.stage? next = none →
      ((u.enter next .fetchMore).goOn next).2
        = [.event (.stateChanged t.state.generation), .request next q]

/-- **What goes wrong leaves the view intact, after every run.** -/
theorem run_intactRule (r : Registry) (moves : List Move) :
    IntactRule r ((Store.empty r).run moves) := by
  have hreached := reached_run r moves
  generalize (Store.empty r).moments moves = past at hreached
  generalize (Store.empty r).run moves = s at hreached
  obtain rfl := hreached.registry
  refine ⟨?_, ?_, ?_, ?_⟩
  · intro task op free forbidden
    cases op.verdict s.registry s.state with
    | granted h => exact absurd forbidden h
    | refused _ v commit =>
        exact ⟨v, fun wait hwait => play_of_refused free commit hwait⟩
  · intro task op free allowed later hlater v hmem
    have hnow : .finished task (.refused v) ∈ ((s.enter task op).play later).2 := hmem
    refine not_refused_of_run hlater ?_ v hnow
    intro events w hstage
    cases op.verdict s.registry s.state with
    | refused forbidden => exact allowed forbidden
    | granted _ next =>
        rw [Store.enter, free, Store.stage?_put_self] at hstage
        injection hstage with hstage
        injection hstage with _ hnext
        exact next w hnext
  · intro task q failure h
    have herrand := Store.errand?_of_stage? h
    exact ⟨hreached.oneEach.loading.mpr ⟨task, q, herrand⟩, take_failure failure h⟩
  · intro task wait q failure later next free hwait t hstage hlater u hnext
    have ht : Reached s.registry _ t :=
      (hreached.step (effect_step s (.enter task .fetchMore))).run wait
    have herrand : t.errand? task = some (t.state.generation, q) := Store.errand?_of_stage? hstage
    have hq : q = t.state.query t.state.cursor := ht.pending task q herrand
    obtain ⟨cursor, hcursor⟩ := cursor_of_fetchMore free hwait herrand
    have hmore : t.state.cursor = some cursor := by
      rw [← hcursor, hq]
      rfl
    have hfailed := take_failure failure hstage
    have hidle : (t.take task (.error failure)).state.isLoading = false := by rw [hfailed]
    have hu : Alike (t.take task (.error failure)).state u.state :=
      (ht.step (effect_step t (.take task (.error failure)))).alike_of_idle hidle hlater
    have hnow : u.state.cursor = some cursor := by
      rw [hu.cursor, hfailed]
      exact hmore
    rw [goOn_fetchMore hnext (hu.loading.trans hidle) hnow, hu.generation, hu.query, hfailed,
      hq, hmore]
    rfl

end ProjectViews
