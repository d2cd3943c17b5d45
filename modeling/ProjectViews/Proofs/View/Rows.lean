/-
What the rows of a view are, at any time.

They are the replay of the news of the present generation, and the seen uids are those
that came with its pages.  The two have to be carried along together: whether a row of
the next page is new depends on the seen uids, which keep what a deletion has dropped
from the rows.

The rest follows from what the replay is, and from looking back at the moment in which
an operation got its result.
-/
import ProjectViews.Proofs.View.Replay

namespace ProjectViews

/-- The rows and the seen uids are what the news of the generation make of them. -/
structure Replayed (past : List Moment) (s : Store) : Prop where
  rows : s.state.rows = replay (newsOf past s.state.generation)
  seen : ∀ uid, uid ∈ s.state.seen ↔ uid ∈ landed (newsOf past s.state.generation)

namespace Replayed

theorem empty (r : Registry) : Replayed [] (.empty r) where
  rows := rfl
  seen := fun _ => Iff.rfl

variable {r : Registry} {past : List Moment} {s : Store} {m : Move} {t : Store × List Output}

/-- News that are no page change the rows and leave the seen uids alone. -/
theorem still (h : Replayed past s) (generation : t.1.state.generation = s.state.generation)
    (seen : t.1.state.seen = s.state.seen)
    (rows : t.1.state.rows = rowsAfter s.state.rows (s.news? m))
    (noPage : ∀ q page, s.news? m ≠ some (.page q page)) :
    Replayed (past ++ [⟨s, m, t.2, t.1⟩]) t.1 := by
  constructor
  · rw [generation, newsOf_present, rows, h.rows]
    match hnews : s.news? m with
    | none => rw [Option.toList_none, List.append_nil]; rfl
    | some (.page q page) => exact absurd hnews (noPage q page)
    | some (.changed row) => exact (replay_concat_changed row).symm
    | some (.deleted uid) => exact (replay_concat_deleted uid).symm
  · intro uid
    rw [generation, newsOf_present, seen, h.seen, landed_append]
    match hnews : s.news? m with
    | none => simp [landed, pageRows]
    | some (.page q page) => exact absurd hnews (noPage q page)
    | some (.changed row) => simp [landed, pageRows, News.rows]
    | some (.deleted uid) => simp [landed, pageRows, News.rows]

/-- Every move keeps it. -/
theorem passage (h : Replayed past s) (hr : Reached r past s) (p : Passage s m t.1) :
    Replayed (past ++ [⟨s, m, t.2, t.1⟩]) t.1 := by
  cases p with
  | rests generation loading question seen cursor rows noPage errands =>
      exact h.still generation seen rows noPage
  | begins generation loading rows seen cursor free news errands =>
      constructor
      · rw [generation, hr.newsOf_begun, rows]
        rfl
      · intro uid
        rw [generation, hr.newsOf_begun, seen]
        exact Iff.rfl
  | continues state idle more free news errands =>
      exact h.still (by rw [state]) (by rw [state]) (by rw [state, news]; rfl)
        (by simp [news])
  | stale move errand old state news errands =>
      exact h.still (by rw [state]) (by rw [state]) (by rw [state, news]; rfl)
        (by simp [news])
  | fails move errand state news errands =>
      exact h.still (by rw [state]) (by rw [state]) (by rw [state, news]; rfl)
        (by simp [news])
  | @page task query page move errand state news errands =>
      have hgeneration : t.1.state.generation = s.state.generation := by rw [state]; rfl
      constructor
      · rw [hgeneration, newsOf_present, news, state]
        show s.state.rows ++ ViewState.newRows s.state.seen page.rows = _
        rw [h.rows]
        exact (replay_concat_page h.seen query page).symm
      · intro uid
        rw [hgeneration, newsOf_present, news, state, landed_append, List.mem_append, ← h.seen]
        show uid ∈ (ViewState.newRows s.state.seen page.rows).map (·.uid) ++ s.state.seen ↔ _
        rw [List.mem_append, or_comm, mem_uids_newRows]
        simp [landed, pageRows, News.rows]

/-- A project that has come and was deleted since is not loaded, whatever was learnt
afterwards. -/
theorem not_isLoaded (h : Replayed past s) {news : List News} {uid : String}
    (hlanded : uid ∈ landed news)
    (hnews : news ++ [.deleted uid] <+: newsOf past s.state.generation) :
    s.state.isLoaded uid = false := by
  obtain ⟨more, hmore⟩ := hnews
  rw [Bool.eq_false_iff]
  intro hloaded
  rw [ViewState.isLoaded_iff, h.rows, map_uid_replay, List.mem_filter, ← hmore,
    List.append_assoc, sinceLanding_append hlanded] at hloaded
  simp [News.deletes] at hloaded

end Replayed

/-- It holds in every store that a run reaches. -/
theorem Reached.replayed {r : Registry} {past : List Moment} {s : Store} (h : Reached r past s) :
    Replayed past s := by
  induction h with
  | empty => exact .empty r
  | step hr e ih => exact ih.passage hr e.passage

/-- No project has two rows. -/
theorem Reached.nodup_rows {r : Registry} {past : List Moment} {s : Store}
    (h : Reached r past s) : (s.state.rows.map (·.uid)).Nodup := by
  rw [h.replayed.rows, map_uid_replay]
  exact (nodup_firsts _).sublist List.filter_sublist

/-- The uids of all rows have been seen. -/
theorem Reached.seen_of_mem_rows {r : Registry} {past : List Moment} {s : Store}
    (h : Reached r past s) {uid : String} (hmem : uid ∈ s.state.rows.map (·.uid)) :
    uid ∈ s.state.seen := by
  rw [h.replayed.rows, map_uid_replay, List.mem_filter] at hmem
  exact (h.replayed.seen uid).mpr (mem_firsts.mp hmem.1)

/-! ### Results -/

/-- No operation says that it loaded a page when it has only committed. -/
theorem Commits.next_ne_loaded {s : ViewState} {op : Operation} {c : Commit} (h : Commits s op c)
    (generation added duplicates : Nat) (more : Bool) :
    c.next ≠ .done (.fetched (.loaded generation added duplicates more)) := by
  intro hnext
  cases h with
  | idle news plain =>
      cases hnext
      rcases plain with h | h | ⟨v, h⟩ <;> cases h
  | setUp => cases hnext
  | configure => cases hnext
  | reload => cases hnext
  | fields => cases hnext
  | more => cases hnext
  | changed => cases hnext
  | deleted => cases hnext

/-- An operation that says that it loaded a page took one in, and every row of the page
either was added to the rows or is a duplicate. -/
theorem Reached.loaded {r : Registry} {past : List Moment} {s : Store} (h : Reached r past s)
    {task generation added duplicates : Nat} {more : Bool} {events : List Event}
    (hstage : s.stage? task
      = some (.ready events (.done (.fetched (.loaded generation added duplicates more))))) :
    ∃ m ∈ past, ∃ page, m.move = .take task (.ok page) ∧ m.before.state.generation = generation ∧
      added + duplicates = page.rows.length ∧
      ∃ new, m.after.state.rows = m.before.state.rows ++ new ∧ new.length = added := by
  obtain ⟨⟨before, move, outputs, after⟩, hm, htask, hmade, hafter⟩ := h.origin hstage
  refine ⟨_, hm, ?_⟩
  have e := h.effect hm
  dsimp only at htask hmade hafter e ⊢
  subst htask
  cases e with
  | ignored hignores => exact absurd hignores hmade
  | asked => simp at hafter
  | ended => simp at hafter
  | joined => simp at hafter
  | handed => simp at hafter
  | @entered task op free =>
      have hready := (Store.stage?_put_self _ _ _).symm.trans hafter
      injection hready with hready
      injection hready with _ hnext
      exact absurd hnext ((op.commits _ _).next_ne_loaded _ _ _ _)
  | @saved task worked uid settings after _ =>
      have hready := (Store.stage?_put_self _ _ _).symm.trans hafter
      cases after <;> cases hready
  | @took task answer g query _ =>
      have hready := (Store.stage?_put_self _ _ _).symm.trans hafter
      by_cases hnow : before.state.generation = g
      · subst hnow
        cases answer with
        | error failure =>
            rw [ViewState.receive_failure] at hready
            cases hready
        | ok page =>
            have hlength : (ViewState.newRows before.state.seen page.rows).length
                ≤ page.rows.length := (ViewState.newRows_sublist _ _).length_le
            rw [ViewState.receive_page] at hready ⊢
            cases hready
            exact ⟨page, rfl, rfl, by omega, _, rfl, rfl⟩
      · rw [ViewState.receive_stale _ _ hnow] at hready
        cases hready

/-! ### The rule of the rows -/

/-- What the rows are, in a store with its past, and what becomes of them. -/
structure ReplayRule (past : List Moment) (s : Store) : Prop where
  /-- The rows are the replay of what was learnt in the present generation. -/
  rows : s.state.rows = replay (newsOf past s.state.generation)
  /-- No project has two rows. -/
  nodup : (s.state.rows.map (·.uid)).Nodup
  /-- The row of a project that is deleted while it is loaded does not come back as long as
  the generation lasts, whatever happens. -/
  gone : ∀ task uid, s.stage? task = none → s.state.isLoaded uid = true → ∀ later,
    (((s.enter task (.projectDeleted uid)).run later).state.generation = s.state.generation) →
      ((s.enter task (.projectDeleted uid)).run later).state.isLoaded uid = false
  /-- A change of a project that is not loaded comes to nothing, and says so. -/
  changed : ∀ task row, s.stage? task = none → s.state.isLoaded row.uid = false →
    s.enter task (.projectChanged row) = s.put task (.ready [] (.done (.noticed false)))
  /-- So does a deletion. -/
  deleted : ∀ task uid, s.stage? task = none → s.state.isLoaded uid = false →
    s.enter task (.projectDeleted uid) = s.put task (.ready [] (.done (.noticed false)))
  /-- Whenever an operation ends and says what it loaded, it has taken a page in; the
  rows grew by what it says was added, and the rest of the page is said to be
  duplicates. -/
  loaded : ∀ m task generation added duplicates more,
    .finished task (.fetched (.loaded generation added duplicates more)) ∈ (s.step m).2 →
      ∃ b ∈ past, ∃ page, b.move = .take task (.ok page) ∧
        b.before.state.generation = generation ∧ added + duplicates = page.rows.length ∧
        ∃ new, b.after.state.rows = b.before.state.rows ++ new ∧ new.length = added

/-- **The rows are the replay of the history of the present generation, after every run.** -/
theorem run_replayRule (r : Registry) (moves : List Move) :
    ReplayRule ((Store.empty r).moments moves) ((Store.empty r).run moves) := by
  have hreached := reached_run r moves
  generalize (Store.empty r).moments moves = past at hreached
  generalize (Store.empty r).run moves = s at hreached
  have hrows := hreached.replayed.rows
  refine ⟨hrows, ?_, ?_, ?_, ?_, ?_⟩
  · rw [hrows, map_uid_replay]
    exact (nodup_firsts _).sublist List.filter_sublist
  · intro task uid free hloaded later hgeneration
    have hafter := ((hreached.step (effect_step s (.enter task (.projectDeleted uid)))).run
      later).replayed
    have hlanded : uid ∈ landed (newsOf past s.state.generation) := by
      rw [ViewState.isLoaded_iff, hrows, map_uid_replay, List.mem_filter] at hloaded
      exact mem_firsts.mp hloaded.1
    have hnews : s.news? (.enter task (.projectDeleted uid)) = some (.deleted uid) := by
      rw [Store.news?, free]
      rfl
    have hstay : ((s.step (.enter task (.projectDeleted uid))).1.run later).state.generation
        = s.state.generation := hgeneration
    refine hafter.not_isLoaded hlanded ?_
    rw [newsOf_append, hstay, newsOf_present, hnews]
    exact List.prefix_append _ _
  · intro task row free hloaded
    rw [Store.enter, free, commit_projectChanged, hloaded, replaceRow_of_not_loaded hloaded]
    rfl
  · intro task uid free hloaded
    rw [Store.enter, free, commit_projectDeleted, hloaded, dropRow_of_not_loaded hloaded]
    rfl
  · intro m task generation added duplicates more hend
    obtain ⟨events, hstage⟩ := (effect_step s m).finished hend
    exact hreached.loaded hstage

end ProjectViews
