/-
Runs of a store.

A run is a list of moves, in any order: operations are started, go on, take their turns
to save, are told that their settings are saved, and take the answers of the server in.
Moves that are not an operation's to make do nothing, so that every list of moves is a
run and nothing need be assumed about it.

`Effect` says once what a move comes to.  What is proved about all runs is proved from
it: something that holds of an empty store and its empty past, and that every effect
preserves, holds after every run, which is what induction on `Reached` says.
-/
import ProjectViews.Proofs.View.Commit
import ProjectViews.View.Store

namespace ProjectViews

/-- One thing that can happen to a store. -/
inductive Move where
  /-- An operation is started, and commits. -/
  | enter (task : Nat) (op : Operation)
  /-- An operation that is ready goes on. -/
  | goOn (task : Nat)
  /-- An operation hands the settings over. -/
  | takeTurn (task : Nat)
  /-- Saving returns to an operation, and has worked or not. -/
  | endTurn (task : Nat) (worked : Bool)
  /-- The server answers an operation. -/
  | take (task : Nat) (answer : Except Failure RowPage)

namespace Store

/-- What a move comes to: the store after it, and what it gives to the outside. -/
def step (s : Store) : Move → Store × List Output
  | .enter task op => (s.enter task op, [])
  | .goOn task => s.goOn task
  | .takeTurn task => s.takeTurn task
  | .endTurn task _ => (s.endTurn task, [])
  | .take task answer => (s.take task answer, [])

/-- The store after a list of moves. -/
def run (s : Store) (moves : List Move) : Store := moves.foldl (fun s m => (s.step m).1) s

end Store

/-- A move in a run: the store before it, what it gave to the outside, and the store
after it. -/
structure Moment where
  before : Store
  move : Move
  outputs : List Output
  after : Store

/-- The moments of a run, the first one first. -/
def Store.moments (s : Store) : List Move → List Moment
  | [] => []
  | m :: rest => ⟨s, m, (s.step m).2, (s.step m).1⟩ :: (s.step m).1.moments rest

theorem Store.run_append (s : Store) (moves later : List Move) :
    s.run (moves ++ later) = (s.run moves).run later := by
  rw [run, run, run, List.foldl_append]

theorem Store.moments_append (s : Store) (moves later : List Move) :
    s.moments (moves ++ later) = s.moments moves ++ (s.run moves).moments later := by
  induction moves generalizing s with
  | nil => rfl
  | cons m rest ih =>
      rw [List.cons_append, moments, moments, ih, List.cons_append]
      rfl

/-! ### What a move comes to -/

/-- The move is not one that the operation can make where it stands. -/
def Store.Ignores (s : Store) : Move → Prop
  | .enter task _ => s.stage? task ≠ none
  | .goOn task => ∀ events next, s.stage? task ≠ some (.ready events next)
  | .takeTurn task =>
    ∀ uid after, s.stage? task = some (.queued uid after) → s.line.head? ≠ some task
  | .endTurn task _ => ∀ uid settings after, s.stage? task ≠ some (.saving uid settings after)
  | .take task _ => ∀ generation query, s.stage? task ≠ some (.fetching generation query)

/-- Everything that a move can come to. -/
inductive Effect (s : Store) : Move → Store × List Output → Prop
  | ignored {m : Move} (h : s.Ignores m) : Effect s m (s, [])
  | entered {task : Nat} {op : Operation} (h : s.stage? task = none) :
      Effect s (.enter task op)
        ({ s with state := (op.commit s.registry s.state).state }.put task
          (.ready (op.commit s.registry s.state).events (op.commit s.registry s.state).next), [])
  | ended {task : Nat} {events : List Event} {result : Result}
      (h : s.stage? task = some (.ready events (.done result))) :
      Effect s (.goOn task) (s.leave task, events.map .event ++ [.finished task result])
  | asked {task : Nat} {events : List Event} {generation : Nat} {query : Query}
      (h : s.stage? task = some (.ready events (.fetch generation query))) :
      Effect s (.goOn task)
        (s.put task (.fetching generation query), events.map .event ++ [.request task query])
  | joined {task : Nat} {events : List Event} {uid : String} {after : AfterSave}
      (h : s.stage? task = some (.ready events (.save uid after))) :
      Effect s (.goOn task)
        ({ s with line := s.line ++ [task] }.put task (.queued uid after), events.map .event)
  | handed {task : Nat} {uid : String} {after : AfterSave}
      (h : s.stage? task = some (.queued uid after)) (turn : s.line.head? = some task) :
      Effect s (.takeTurn task)
        (s.put task (.saving uid s.state.settings after), [.save task uid s.state.settings])
  | saved {task : Nat} {worked : Bool} {uid : String} {settings : ViewSettings}
      {after : AfterSave} (h : s.stage? task = some (.saving uid settings after)) :
      Effect s (.endTurn task worked)
        ({ s with line := s.line.drop 1 }.put task (.ready [] after.next), [])
  | took {task : Nat} {answer : Except Failure RowPage} {generation : Nat} {query : Query}
      (h : s.stage? task = some (.fetching generation query)) :
      Effect s (.take task answer)
        ({ s with state := (s.state.receive generation answer).1 }.put task
          (.ready (s.state.receive generation answer).2.1
            (.done (.fetched (s.state.receive generation answer).2.2))), [])

/-- **Every move has one of these effects.** -/
theorem effect_step (s : Store) (m : Move) : Effect s m (s.step m) := by
  cases m with
  | enter task op =>
      cases hstage : s.stage? task with
      | none =>
          simp only [Store.step, Store.enter, hstage]
          exact .entered hstage
      | some stage =>
          simp only [Store.step, Store.enter, hstage]
          exact .ignored (by simp [Store.Ignores, hstage])
  | goOn task =>
      simp only [Store.step, Store.goOn]
      split
      · rename_i events next hstage
        cases next with
        | done result => exact .ended hstage
        | fetch generation query => exact .asked hstage
        | save uid after => exact .joined hstage
      · rename_i hstage
        exact .ignored hstage
  | takeTurn task =>
      simp only [Store.step, Store.takeTurn]
      split
      · rename_i uid after hstage
        split
        · rename_i hturn
          exact .handed hstage hturn
        · rename_i hturn
          exact .ignored fun _ _ _ => hturn
      · rename_i hstage
        exact .ignored fun uid after h => absurd h (hstage uid after)
  | endTurn task worked =>
      simp only [Store.step, Store.endTurn]
      split
      · rename_i hstage
        exact .saved hstage
      · rename_i hstage
        exact .ignored hstage
  | take task answer =>
      simp only [Store.step, Store.take]
      split
      · rename_i hstage
        exact .took hstage
      · rename_i hstage
        exact .ignored hstage

/-- The operation that makes a move. -/
@[simp] def Move.task : Move → Nat
  | enter task _ | goOn task | takeTurn task | endTurn task _ | take task _ => task

/-- The others stay where they were. -/
theorem Effect.stage?_of_ne {s : Store} {m : Move} {t : Store × List Output} (e : Effect s m t)
    {u : Nat} (hu : u ≠ m.task) : t.1.stage? u = s.stage? u := by
  cases e with
  | ignored => rfl
  | ended => exact (Store.stage?_leave s _ u).trans (if_neg hu)
  | entered => exact (Store.stage?_put _ _ u _).trans (if_neg hu)
  | asked => exact (Store.stage?_put _ _ u _).trans (if_neg hu)
  | joined => exact (Store.stage?_put _ _ u _).trans (if_neg hu)
  | handed => exact (Store.stage?_put _ _ u _).trans (if_neg hu)
  | saved => exact (Store.stage?_put _ _ u _).trans (if_neg hu)
  | took => exact (Store.stage?_put _ _ u _).trans (if_neg hu)

theorem Effect.of_ignores {s : Store} {m : Move} {t : Store × List Output} (e : Effect s m t)
    (h : s.Ignores m) : t = (s, []) := by
  cases e with
  | ignored => rfl
  | entered free => exact absurd free h
  | ended stage => exact absurd stage (h _ _)
  | asked stage => exact absurd stage (h _ _)
  | joined stage => exact absurd stage (h _ _)
  | handed stage turn => exact absurd turn (h _ _ stage)
  | saved stage => exact absurd stage (h _ _ _)
  | took stage => exact absurd stage (h _ _)

/-- The view only changes when an operation commits or takes an answer in. -/
theorem Effect.state_cases {s : Store} {m : Move} {t : Store × List Output} (e : Effect s m t) :
    t.1.state = s.state ∨
      (∃ task op, m = .enter task op ∧ s.stage? task = none ∧
        t.1.state = (op.commit s.registry s.state).state) ∨
      ∃ task answer generation query, m = .take task answer ∧
        s.stage? task = some (.fetching generation query) ∧
        t.1.state = (s.state.receive generation answer).1 := by
  cases e with
  | @entered task op free => exact Or.inr (Or.inl ⟨task, op, rfl, free, rfl⟩)
  | @took task answer generation query h =>
      exact Or.inr (Or.inr ⟨task, answer, generation, query, rfl, h, rfl⟩)
  | ignored => exact Or.inl rfl
  | ended => exact Or.inl rfl
  | asked => exact Or.inl rfl
  | joined => exact Or.inl rfl
  | handed => exact Or.inl rfl
  | saved => exact Or.inl rfl

/-- Only an operation that has its result ends with it. -/
theorem Effect.finished {s : Store} {m : Move} {t : Store × List Output} (e : Effect s m t)
    {task : Nat} {result : Result} (h : .finished task result ∈ t.2) :
    ∃ events, s.stage? task = some (.ready events (.done result)) := by
  cases e with
  | ignored => simp at h
  | entered => simp at h
  | saved => simp at h
  | took => simp at h
  | asked => simp at h
  | joined => simp at h
  | handed => simp at h
  | @ended task' events result' hstage =>
      have hend : task = task' ∧ result = result' := by simpa using h
      obtain ⟨rfl, rfl⟩ := hend
      exact ⟨events, hstage⟩

/-! ### What runs reach -/

/-- The stores that runs reach, with what has happened until then. -/
inductive Reached (r : Registry) : List Moment → Store → Prop
  | empty : Reached r [] (.empty r)
  | step {past : List Moment} {s : Store} {m : Move} {t : Store × List Output}
      (h : Reached r past s) (e : Effect s m t) : Reached r (past ++ [⟨s, m, t.2, t.1⟩]) t.1

/-- The registry of a store never changes. -/
theorem Reached.registry {r : Registry} {past : List Moment} {s : Store} (h : Reached r past s) :
    s.registry = r := by
  induction h with
  | empty => rfl
  | step _ e ih => cases e <;> exact ih

/-- What has been reached goes on by any run. -/
theorem Reached.run {r : Registry} {past : List Moment} {s : Store} (h : Reached r past s)
    (moves : List Move) : Reached r (past ++ s.moments moves) (s.run moves) := by
  induction moves generalizing past s with
  | nil =>
      rw [Store.moments, List.append_nil]
      exact h
  | cons m rest ih =>
      have hrest := ih (h.step (effect_step s m))
      rw [List.append_assoc] at hrest
      exact hrest

/-- Whatever has happened, happened in a store that had been reached. -/
theorem Reached.split {r : Registry} {past : List Moment} {s : Store} (h : Reached r past s)
    {earlier later : List Moment} {m : Moment} (hpast : past = earlier ++ m :: later) :
    Reached r earlier m.before ∧ Effect m.before m.move (m.after, m.outputs) := by
  induction h generalizing later with
  | empty => simp at hpast
  | step h e ih =>
      rcases List.eq_nil_or_concat later with rfl | ⟨rest, last, rfl⟩
      · obtain ⟨rfl, hlast⟩ := List.append_inj' hpast rfl
        cases hlast
        exact ⟨h, e⟩
      · rw [List.concat_eq_append, ← List.cons_append, ← List.append_assoc] at hpast
        exact ih (List.append_inj' hpast rfl).1

theorem Reached.effect {r : Registry} {past : List Moment} {s : Store} (h : Reached r past s)
    {m : Moment} (hm : m ∈ past) : Effect m.before m.move (m.after, m.outputs) := by
  obtain ⟨earlier, later, hpast⟩ := List.append_of_mem hm
  exact (h.split hpast).2

/-- Wherever an operation stands, a move of its own has taken it there. -/
theorem Reached.origin {r : Registry} {past : List Moment} {s : Store} (h : Reached r past s)
    {task : Nat} {stage : Stage} (hstage : s.stage? task = some stage) :
    ∃ m ∈ past, m.move.task = task ∧ ¬ m.before.Ignores m.move ∧
      m.after.stage? task = some stage := by
  induction h with
  | empty => cases hstage
  | @step past s m t h e ih =>
      have hold : s.stage? task = some stage → ∃ b ∈ past ++ [⟨s, m, t.2, t.1⟩],
          b.move.task = task ∧ ¬ b.before.Ignores b.move ∧ b.after.stage? task = some stage := by
        intro hs
        obtain ⟨b, hb, hrest⟩ := ih hs
        exact ⟨b, List.mem_append_left _ hb, hrest⟩
      by_cases htask : m.task = task
      · by_cases hignores : s.Ignores m
        · rw [e.of_ignores hignores] at hstage
          exact hold hstage
        · exact ⟨_, List.mem_append_right _ List.mem_cons_self, htask, hignores, hstage⟩
      · exact hold ((e.stage?_of_ne (Ne.symm htask)).symm.trans hstage)

/-- Every run reaches the store it ends in. -/
theorem reached_run (r : Registry) (moves : List Move) :
    Reached r ((Store.empty r).moments moves) ((Store.empty r).run moves) :=
  Reached.empty.run moves

end ProjectViews
