/-
Answers that come too late cannot be told apart from none.

An answer is late when the generation that it was asked for is over.  The view does not
look into it, so whatever it says, the same happens, which is `SameButLate`.  And what
happens is only that its own operation ends: nothing changes for the view, and nothing for
any other operation.  So it does not matter either when a late answer comes, or whether it
ever does.

For the latter the operation is taken out of the store, as in the case of operations that
are refused.  What makes it possible is `Late`, which an operation does not get out of:
generations only count up, and the operation has nothing left to do but to wait and to end.
-/
import ProjectViews.Proofs.View.Provenance
import ProjectViews.Proofs.View.Refusal

namespace ProjectViews

/-! ### What a late answer says -/

/-- The same moves, but for what late answers say. -/
inductive SameButLate : Store → List Move → List Move → Prop
  | nil {s : Store} : SameButLate s [] []
  | same {s : Store} {m : Move} {moves moves' : List Move}
      (rest : SameButLate (s.step m).1 moves moves') : SameButLate s (m :: moves) (m :: moves')
  | late {s : Store} {task generation : Nat} {query : Query}
      {answer answer' : Except Failure RowPage} {moves moves' : List Move}
      (h : s.stage? task = some (.fetching generation query))
      (old : generation ≠ s.state.generation)
      (rest : SameButLate (s.step (.take task answer)).1 moves moves') :
      SameButLate s (.take task answer :: moves) (.take task answer' :: moves')

/-- What there is to a moment apart from the move: the store before it, what it gave to the
outside, the save that returned with it, and the store after it. -/
def Moment.course (m : Moment) : Store × List Output × Option Save × Store :=
  (m.before, m.outputs, m.before.saved? m.move, m.after)

/-- With a late answer its operation has its outcome, and that is all. -/
theorem take_late {s : Store} {task generation : Nat} {query : Query}
    (h : s.stage? task = some (.fetching generation query))
    (old : generation ≠ s.state.generation) (answer : Except Failure RowPage) :
    s.take task answer = s.put task (.ready [] (.done (.fetched (.stale generation)))) := by
  rw [Store.take, h]
  simp only [ViewState.receive_stale s.state answer (Ne.symm old)]

theorem step_late {s : Store} {task generation : Nat} {query : Query}
    (h : s.stage? task = some (.fetching generation query))
    (old : generation ≠ s.state.generation) (answer answer' : Except Failure RowPage) :
    s.step (.take task answer') = s.step (.take task answer) := by
  rw [Store.step, Store.step, take_late h old, take_late h old]

/-- Whatever late answers say, the same happens at every step. -/
theorem SameButLate.course {s : Store} {moves moves' : List Move} (h : SameButLate s moves moves') :
    (s.moments moves').map Moment.course = (s.moments moves).map Moment.course := by
  induction h with
  | nil => rfl
  | same _ ih =>
      rw [Store.moments, Store.moments, List.map_cons, List.map_cons, ih]
  | @late s task generation query answer answer' moves moves' h old _ ih =>
      rw [Store.moments, Store.moments, step_late h old answer answer', List.map_cons,
        List.map_cons, ih]
      rfl

theorem SameButLate.run {s : Store} {moves moves' : List Move} (h : SameButLate s moves moves') :
    s.run moves' = s.run moves := by
  induction h with
  | nil => rfl
  | same _ ih => exact ih
  | @late s task generation query answer answer' moves moves' h old _ ih =>
      rw [Store.run, List.foldl_cons, step_late h old answer answer']
      exact ih

/-! ### When a late answer comes -/

/-- An operation has nothing to do any more but with a generation that is over: it waits for
a late answer, or has to return that it came, or has done so. -/
def Store.Late (s : Store) (task generation : Nat) : Prop :=
  generation < s.state.generation ∧
    (s.stage? task = none ∨ (∃ query, s.stage? task = some (.fetching generation query)) ∨
      s.stage? task = some (.ready [] (.done (.fetched (.stale generation)))))

/-- What a move of its own comes to: it stays so, and the rest of the store does not change. -/
structure Aside (s : Store) (m : Move) (t : Store × List Output) (task generation : Nat) :
    Prop where
  late : t.1.Late task generation
  rest : t.1.leave task = s.leave task
  outputs : t.2 = [] ∨ t.2 = [.finished task (.fetched (.stale generation))]
  saved : s.saved? m = none

theorem Aside.of_ignores {s : Store} {m : Move} {task generation : Nat}
    (h : s.Late task generation) (hm : s.Ignores m) : Aside s m (s.step m) task generation := by
  rw [(effect_step s m).of_ignores hm]
  exact ⟨h, rfl, Or.inl rfl, Store.saved?_of_ignores hm⟩

namespace Store.Late

variable {s : Store} {task generation : Nat}

/-- Whoever waits for an answer of a generation that is over is late. -/
theorem of_fetching {query : Query} (one : OneEach s)
    (h : s.stage? task = some (.fetching generation query))
    (old : generation ≠ s.state.generation) : s.Late task generation :=
  ⟨Nat.lt_of_le_of_ne (one.begun ⟨query, Store.errand?_of_stage? h⟩) old,
    Or.inr (Or.inl ⟨query, h⟩)⟩

/-- What the moves of others come to leaves it so. -/
theorem step_of_ne (h : s.Late task generation) {m : Move} (hm : m.task ≠ task) :
    (s.step m).1.Late task generation := by
  have hstage := (effect_step s m).stage?_of_ne (Ne.symm hm)
  have hcount := (effect_step s m).passage.generation_cases
  refine ⟨?_, ?_⟩
  · have hless := h.1
    omega
  · rw [hstage]
    exact h.2

/-- Its own moves take it to its end, one by one, or come to nothing. -/
theorem aside (h : s.Late task generation) {m : Move} (own : m.task = task)
    (hm : ∀ op, m ≠ .enter task op) : Aside s m (s.step m) task generation := by
  rcases h.2 with hnone | ⟨query, hfetching⟩ | hready
  · refine .of_ignores h ?_
    cases m with
    | enter u op => exact absurd (congrArg (Move.enter · op) own) (hm op)
    | goOn u => simp [Store.Ignores, show u = task from own, hnone]
    | takeTurn u => simp [Store.Ignores, show u = task from own, hnone]
    | endTurn u worked => simp [Store.Ignores, show u = task from own, hnone]
    | take u answer => simp [Store.Ignores, show u = task from own, hnone]
  · cases m with
    | take u answer =>
        obtain rfl : u = task := own
        rw [Store.step, take_late hfetching (Nat.ne_of_lt h.1) answer]
        exact ⟨⟨h.1, Or.inr (Or.inr (Store.stage?_put_self _ _ _))⟩, Store.leave_put_self _ _ _,
          Or.inl rfl, rfl⟩
    | enter u op => exact absurd (congrArg (Move.enter · op) own) (hm op)
    | goOn u => exact .of_ignores h (by simp [Store.Ignores, show u = task from own, hfetching])
    | takeTurn u => exact .of_ignores h (by simp [Store.Ignores, show u = task from own, hfetching])
    | endTurn u worked =>
        exact .of_ignores h (by simp [Store.Ignores, show u = task from own, hfetching])
  · cases m with
    | goOn u =>
        obtain rfl : u = task := own
        rw [Store.step, Store.goOn, hready]
        exact ⟨⟨h.1, Or.inl (Store.stage?_leave_self _ _)⟩,
          Store.leave_leave_self _ _, Or.inr rfl, rfl⟩
    | enter u op => exact absurd (congrArg (Move.enter · op) own) (hm op)
    | takeTurn u => exact .of_ignores h (by simp [Store.Ignores, show u = task from own, hready])
    | endTurn u worked =>
        exact .of_ignores h (by simp [Store.Ignores, show u = task from own, hready])
    | take u answer => exact .of_ignores h (by simp [Store.Ignores, show u = task from own, hready])

/-- Nor does anything that happens afterwards change it. -/
theorem step (h : s.Late task generation) {m : Move} (hm : ∀ op, m ≠ .enter task op) :
    (s.step m).1.Late task generation := by
  by_cases own : m.task = task
  · exact (h.aside own hm).late
  · exact h.step_of_ne own

/-- All its moves are of this kind. -/
theorem moments (h : s.Late task generation) {later : List Move}
    (hlater : ∀ op, .enter task op ∉ later) :
    ∀ m ∈ s.moments later, m.move.task = task →
      Aside m.before m.move (m.after, m.outputs) task generation := by
  induction later generalizing s with
  | nil => simp [Store.moments]
  | cons m rest ih =>
      intro b hb own
      have hm : ∀ op, m ≠ .enter task op := fun op hc => hlater op (hc ▸ List.mem_cons_self)
      rcases List.mem_cons.mp hb with rfl | hrest
      · exact h.aside own hm
      · exact ih (h.step hm) (fun op hc => hlater op (List.mem_cons_of_mem _ hc)) b hrest own

end Store.Late

/-- What others than an operation have done, and what came of it: their moves, what these gave
to the outside, the saves that returned with them, and the stores after them but for the
operation. -/
def beside (task : Nat) (past : List Moment) : List (Move × List Output × Option Save × Store) :=
  (past.filter fun m => m.move.task != task).map fun m =>
    (m.move, m.outputs, m.before.saved? m.move, m.after.leave task)

theorem beside_cons_own {task : Nat} {m : Moment} (h : m.move.task = task) (past : List Moment) :
    beside task (m :: past) = beside task past := by
  rw [beside, List.filter_cons, h, bne_self_eq_false]
  rfl

theorem beside_cons_of_ne {task : Nat} {m : Moment} (h : m.move.task ≠ task) (past : List Moment) :
    beside task (m :: past)
      = (m.move, m.outputs, m.before.saved? m.move, m.after.leave task) :: beside task past := by
  rw [beside, List.filter_cons, if_pos (bne_iff_ne.mpr h)]
  rfl

/-- What others than a late operation do, and what comes of it, is the same without it. -/
theorem Store.Late.beside {s : Store} {task generation : Nat} (h : s.Late task generation)
    {later : List Move} (hlater : ∀ op, .enter task op ∉ later) :
    beside task (s.moments later) = beside task ((s.leave task).moments (others task later)) ∧
      (s.run later).leave task = (s.leave task).run (others task later) ∧
      returned (s.moments later) = returned ((s.leave task).moments (others task later)) := by
  induction later generalizing s with
  | nil => exact ⟨rfl, rfl, rfl⟩
  | cons m rest ih =>
      have hm : ∀ op, m ≠ .enter task op := fun op hc => hlater op (hc ▸ List.mem_cons_self)
      obtain ⟨hbeside, hrun, hreturned⟩ :=
        ih (h.step hm) fun op hc => hlater op (List.mem_cons_of_mem _ hc)
      by_cases own : m.task = task
      · have haside := h.aside own hm
        rw [haside.rest] at hbeside hrun hreturned
        rw [others_cons_own own]
        refine ⟨?_, hrun, ?_⟩
        · rw [← hbeside, Store.moments, beside_cons_own own]
        · rw [← hreturned, Store.moments, returned_cons, haside.saved]
          rfl
      · have hstep := Store.step_leave s own
        rw [others_cons_of_ne own, Store.moments, Store.moments, hstep]
        refine ⟨?_, hrun.trans ?_, ?_⟩
        · rw [beside_cons_of_ne own, beside_cons_of_ne own, hbeside, Store.saved?_leave s own,
            Store.leave_leave_self]
        · rw [Store.run, Store.run, List.foldl_cons, hstep]
        · rw [returned_cons, returned_cons, Store.saved?_leave s own, hreturned]

/-! ### The rule of late answers -/

/-- That a late answer cannot be told apart from none, for a store that some moves led to. -/
structure LateRule (r : Registry) (moves : List Move) (s : Store) : Prop where
  /-- Two runs that differ in what late answers say go through the same stores, with the same
  events, requests, settings handed over and results, and with the same saves that return. -/
  contents : ∀ moves', SameButLate (.empty r) moves moves' →
    ((Store.empty r).moments moves').map Moment.course
        = ((Store.empty r).moments moves).map Moment.course ∧
      (Store.empty r).run moves' = s
  /-- An operation whose answer is late returns that it came too late, for the generation it
  was asked for.  All else comes to the same as without the operation. -/
  outcome : ∀ task generation query, s.stage? task = some (.fetching generation query) →
    generation ≠ s.state.generation → ∀ answer wait, .goOn task ∉ wait →
      s.play (.take task answer :: (wait ++ [.goOn task]))
        = (((s.leave task).play (others task wait)).1,
           ((s.leave task).play (others task wait)).2
             ++ [.finished task (.fetched (.stale generation))]) ∧
      returned (s.moments (.take task answer :: (wait ++ [.goOn task])))
        = returned ((s.leave task).moments (others task wait))
  /-- It does not matter when a late answer comes or if it comes: as long as the others make
  the same moves, these come to the same, one by one. -/
  moved : ∀ task generation query, s.stage? task = some (.fetching generation query) →
    generation ≠ s.state.generation → ∀ later later',
      (∀ op, .enter task op ∉ later) → (∀ op, .enter task op ∉ later') →
      others task later = others task later' →
      beside task (s.moments later) = beside task (s.moments later') ∧
      (s.run later).leave task = (s.run later').leave task ∧
      returned (s.moments later) = returned (s.moments later')
  /-- And what the operation itself still does changes nothing and gives nothing to the
  outside but its own result. -/
  own : ∀ task generation query, s.stage? task = some (.fetching generation query) →
    generation ≠ s.state.generation → ∀ later, (∀ op, .enter task op ∉ later) →
      ∀ m ∈ s.moments later, m.move.task = task →
        m.after.leave task = m.before.leave task ∧ m.before.saved? m.move = none ∧
        (m.outputs = [] ∨ m.outputs = [.finished task (.fetched (.stale generation))])

/-- **Late answers are as good as none, after every run.** -/
theorem run_lateRule (r : Registry) (moves : List Move) :
    LateRule r moves ((Store.empty r).run moves) := by
  have hreached := reached_run r moves
  refine ⟨fun moves' h => ⟨h.course, h.run⟩, ?_, ?_, ?_⟩
  · intro task generation query hstage old answer wait hwait
    generalize (Store.empty r).run moves = s at hstage old
    have htake := take_late hstage old answer
    have hself : (s.take task answer).stage? task
        = some (.ready [] (.done (.fetched (.stale generation)))) := by
      rw [htake, Store.stage?_put_self]
    have hleave : (s.take task answer).leave task = s.leave task := by
      rw [htake, Store.leave_put_self]
    have hrest := play_returning hself hwait
    rw [hleave] at hrest
    exact hrest
  · intro task generation query hstage old later later' hlater hlater' same
    have late := Store.Late.of_fetching hreached.oneEach hstage old
    obtain ⟨hbeside, hrun, hreturned⟩ := late.beside hlater
    obtain ⟨hbeside', hrun', hreturned'⟩ := late.beside hlater'
    rw [same] at hbeside hrun hreturned
    exact ⟨hbeside.trans hbeside'.symm, hrun.trans hrun'.symm, hreturned.trans hreturned'.symm⟩
  · intro task generation query hstage old later hlater m hm own
    have aside := (Store.Late.of_fetching hreached.oneEach hstage old).moments hlater m hm own
    exact ⟨aside.rest, aside.saved, aside.outputs⟩

end ProjectViews
