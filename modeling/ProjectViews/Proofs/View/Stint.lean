/-
Stints: what an operation does from one wait to the next.

An operation that nobody interrupts goes on until it has to wait or has come to its end.
Such a stretch is a stint: an operation is started, it gets its turn to save, it learns that
its settings are saved, or it gets its answer, and in each case it does all that it can do
by itself.  A stint is a few moves in a row, so that lists of stints, in any order, are
runs; they are the runs in which operations only take turns where they must.

Between two stints everybody waits, which is `Settled`.  So nothing is ever left to be told
from before, and what is told in a stint is what its own operation has to tell.  `Course`
says what that can be, and what becomes of the view meanwhile.
-/
import ProjectViews.Proofs.View.Schedule

namespace ProjectViews

/-- What an operation does from one wait to the next. -/
inductive Stint where
  /-- An operation is started. -/
  | start (task : Nat) (op : Operation)
  /-- An operation that wants to save gets its turn. -/
  | takeTurn (task : Nat)
  /-- Saving returns to an operation, and has worked or not. -/
  | saved (task : Nat) (worked : Bool)
  /-- The server answers an operation. -/
  | answered (task : Nat) (answer : Except Failure RowPage)

/-- The moves of a stint. -/
def Stint.moves : Stint → List Move
  | start task op => [.enter task op, .goOn task, .takeTurn task]
  | takeTurn task => [.takeTurn task]
  | saved task worked => [.endTurn task worked, .goOn task, .takeTurn task]
  | answered task answer => [.take task answer, .goOn task, .takeTurn task]

namespace Store

/-- What a stint comes to: the store after it, and what it gives to the outside. -/
def perform (s : Store) : Stint → Store × List Output
  | .start task op => s.start task op
  | .takeTurn task => s.takeTurn task
  | .saved task _ => s.saved task
  | .answered task answer => s.answered task answer

/-- The store after a list of stints. -/
def performAll (s : Store) (stints : List Stint) : Store :=
  stints.foldl (fun s x => (s.perform x).1) s

theorem perform_eq_play (s : Store) (x : Stint) : s.perform x = s.play x.moves := by
  cases x with
  | start task op => exact s.start_eq_play task op
  | takeTurn task => exact s.takeTurn_eq_play task
  | saved task worked => exact s.saved_eq_play task worked
  | answered task answer => exact s.answered_eq_play task answer

/-- Stints make a run. -/
theorem performAll_eq_run (s : Store) (stints : List Stint) :
    s.performAll stints = s.run (stints.flatMap Stint.moves) := by
  induction stints generalizing s with
  | nil => rfl
  | cons x rest ih =>
      rw [List.flatMap_cons, run_append, performAll, List.foldl_cons, perform_eq_play]
      exact ih _

/-- Everybody waits. -/
def Settled (s : Store) : Prop := ∀ task events next, s.stage? task ≠ some (.ready events next)

/-- Everybody else waits. -/
def SettledBut (s : Store) (task : Nat) : Prop :=
  ∀ u, u ≠ task → ∀ events next, s.stage? u ≠ some (.ready events next)

end Store

/-! ### What is told -/

/-- The event that the watchers are told, if it is one. -/
def Output.event? : Output → Option Event
  | .event e => some e
  | _ => none

/-- The failure of a request, if that is what has become of it. -/
def Result.failure? : Result → Option Failure
  | .fetched (.failed failure) => some failure
  | _ => none

/-- The failure with which an operation ends. -/
def Output.failure? : Output → Option Failure
  | .finished _ result => result.failure?
  | _ => none

/-- What the watchers are told, the first event first. -/
def told (outputs : List Output) : List Event := outputs.filterMap Output.event?

/-- The failures with which operations end. -/
def failures (outputs : List Output) : List Failure := outputs.filterMap Output.failure?

/-- They are the failures of requests. -/
theorem mem_failures {outputs : List Output} {failure : Failure} : failure ∈ failures outputs ↔
    ∃ task, .finished task (.fetched (.failed failure)) ∈ outputs := by
  constructor
  · intro h
    obtain ⟨o, ho, hfailure⟩ := List.mem_filterMap.mp h
    match o, hfailure with
    | .finished task (.fetched (.failed _)), rfl => exact ⟨task, ho⟩
  · rintro ⟨task, h⟩
    exact List.mem_filterMap.mpr ⟨_, h, rfl⟩

theorem told_append (outputs more : List Output) :
    told (outputs ++ more) = told outputs ++ told more := List.filterMap_append

theorem failures_append (outputs more : List Output) :
    failures (outputs ++ more) = failures outputs ++ failures more := List.filterMap_append

/-- Events are told as they are. -/
theorem told_map_event (events : List Event) : told (events.map .event) = events := by
  simp [told, Output.event?, List.filterMap_map, Function.comp_def]

theorem failures_map_event (events : List Event) : failures (events.map .event) = [] := by
  simp [failures, Output.failure?, List.filterMap_map, Function.comp_def]

/-- The failure that an operation is going to end with at once. -/
def Next.failure? : Next → Option Failure
  | .done result => result.failure?
  | _ => none

/-- What is left after saving does not fail. -/
theorem AfterSave.failure?_next (after : AfterSave) : after.next.failure? = none := by
  cases after <;> rfl

/-! ### Going on to the next wait -/

/-- A stretch that tells these events, ends with these failures and leaves the view as it
is here; after it everybody waits. -/
structure Stretch (state : ViewState) (events : List Event) (failed : List Failure)
    (t : Store × List Output) : Prop where
  state : t.1.state = state
  told : told t.2 = events
  failures : failures t.2 = failed
  settled : t.1.Settled

/-- Two stretches in a row, the second of which tells nothing. -/
theorem Stretch.then {state : ViewState} {events : List Event} {failed : List Failure}
    {t t' : Store × List Output} (h : Stretch state events failed t)
    (h' : Stretch t.1.state [] [] t') : Stretch state events failed (t'.1, t.2 ++ t'.2) where
  state := h'.state.trans h.state
  told := by rw [told_append, h.told, h'.told, List.append_nil]
  failures := by rw [failures_append, h.failures, h'.failures, List.append_nil]
  settled := h'.settled

namespace Store

variable {s : Store} {task : Nat}

theorem Settled.but (h : s.Settled) (task : Nat) : s.SettledBut task := fun u _ => h u

/-- When the one that does not wait is put where it waits, everybody does. -/
theorem SettledBut.put (h : s.SettledBut task) {stage : Stage}
    (waits : ∀ events next, stage ≠ .ready events next) : (s.put task stage).Settled := by
  intro u events next hu
  rw [stage?_put] at hu
  by_cases htask : u = task
  · rw [if_pos htask] at hu
    exact waits events next (Option.some.inj hu)
  · rw [if_neg htask] at hu
    exact h u htask events next hu

theorem SettledBut.leave (h : s.SettledBut task) : (s.leave task).Settled := by
  intro u events next hu
  rw [stage?_leave] at hu
  by_cases htask : u = task
  · simp [htask] at hu
  · rw [if_neg htask] at hu
    exact h u htask events next hu

/-- While everybody waits, nobody but the one that is put somewhere can be ready. -/
theorem Settled.put (h : s.Settled) (task : Nat) (stage : Stage) :
    (s.put task stage).SettledBut task := by
  intro u hu events next hready
  rw [stage?_put, if_neg hu] at hready
  exact h u events next hready

/-- Whoever waits stays where it is. -/
theorem Settled.stretch (h : s.Settled) : Stretch s.state [] [] (s, []) := ⟨rfl, rfl, rfl, h⟩

/-- Nobody goes on while everybody waits. -/
theorem Settled.goOn (h : s.Settled) (task : Nat) : s.goOn task = (s, []) :=
  (effect_step s (.goOn task)).of_ignores fun events next => h task events next

/-- A turn is taken without a word. -/
theorem Settled.takeTurn (h : s.Settled) (task : Nat) : Stretch s.state [] [] (s.takeTurn task) := by
  have e : Effect s (.takeTurn task) (s.takeTurn task) := effect_step s (.takeTurn task)
  generalize s.takeTurn task = t at e
  cases e with
  | ignored => exact h.stretch
  | handed => exact ⟨rfl, by simp [told, Output.event?], by simp [failures, Output.failure?],
      (h.but task).put (by simp)⟩

/-- Who goes on tells what it has to tell, and then waits or ends. -/
theorem SettledBut.goOn (h : s.SettledBut task) {events : List Event} {next : Next}
    (hstage : s.stage? task = some (.ready events next)) :
    Stretch s.state events next.failure?.toList (s.goOn task) := by
  have e : Effect s (.goOn task) (s.goOn task) := effect_step s (.goOn task)
  generalize s.goOn task = t at e
  cases e with
  | ignored hignores => exact absurd hstage (hignores events next)
  | @ended task' events' result h' =>
      obtain ⟨rfl, rfl⟩ : events = events' ∧ next = .done result := by simpa [hstage] using h'
      refine ⟨rfl, ?_, ?_, h.leave⟩
      · rw [told_append, told_map_event]
        simp [told, Output.event?]
      · rw [failures_append, failures_map_event]
        cases hfailure : result.failure? <;>
          simp [failures, Output.failure?, Next.failure?, hfailure]
  | @asked task' events' generation query h' =>
      obtain ⟨rfl, rfl⟩ : events = events' ∧ next = .fetch generation query := by
        simpa [hstage] using h'
      refine ⟨rfl, ?_, ?_, h.put (by simp)⟩
      · rw [told_append, told_map_event]
        simp [told, Output.event?]
      · rw [failures_append, failures_map_event]
        rfl
  | @joined task' events' uid after h' =>
      obtain ⟨rfl, rfl⟩ : events = events' ∧ next = .save uid after := by simpa [hstage] using h'
      have hline : SettledBut { s with line := s.line ++ [task] } task := h
      exact ⟨rfl, told_map_event events, failures_map_event events, hline.put (by simp)⟩

theorem SettledBut.runOn (h : s.SettledBut task) {events : List Event} {next : Next}
    (hstage : s.stage? task = some (.ready events next)) :
    Stretch s.state events next.failure?.toList (s.runOn task) := by
  have hgoOn := h.goOn hstage
  exact hgoOn.then (hgoOn.settled.takeTurn task)

theorem Settled.runOn (h : s.Settled) (task : Nat) : Stretch s.state [] [] (s.runOn task) := by
  have hgoOn : Stretch s.state [] [] (s.goOn task) := h.goOn task ▸ h.stretch
  exact hgoOn.then (hgoOn.settled.takeTurn task)

/-- Whoever comes to be ready while all others wait goes on to the next wait. -/
theorem Settled.runOn_put (h : s.Settled) (task : Nat) (events : List Event) (next : Next) :
    Stretch s.state events next.failure?.toList ((s.put task (.ready events next)).runOn task) :=
  (h.put task _).runOn (stage?_put_self s task _)

/-! ### What a stint comes to -/

/-- The stint is one in which an operation is started or takes an answer in. -/
def Engages (s : Store) : Stint → Prop
  | .start task _ => s.stage? task = none
  | .answered task _ => ∃ generation query, s.stage? task = some (.fetching generation query)
  | _ => False

/-- Everything that a stint can come to, for the view and for those who watch it. -/
inductive Course (s : Store) : Stint → Store × List Output → Prop
  /-- Nothing at all. -/
  | aside {x : Stint} {t : Store × List Output} (aside : ¬ s.Engages x)
      (stretch : Stretch s.state [] [] t) : Course s x t
  /-- An operation commits. -/
  | commits {task : Nat} {op : Operation} {t : Store × List Output}
      (free : s.stage? task = none)
      (stretch : Stretch (op.commit s.registry s.state).state
        (op.commit s.registry s.state).events
        (op.commit s.registry s.state).next.failure?.toList t) : Course s (.start task op) t
  /-- An answer is taken in. -/
  | receives {task generation : Nat} {query : Query} {answer : Except Failure RowPage}
      {t : Store × List Output} (out : s.stage? task = some (.fetching generation query))
      (stretch : Stretch (s.state.receive generation answer).1
        (s.state.receive generation answer).2.1
        (Result.fetched (s.state.receive generation answer).2.2).failure?.toList t) :
      Course s (.answered task answer) t

/-- After a stint everybody waits again. -/
theorem Course.settled {x : Stint} {t : Store × List Output} (h : Course s x t) :
    t.1.Settled := by
  cases h with
  | aside _ stretch => exact stretch.settled
  | commits _ stretch => exact stretch.settled
  | receives _ stretch => exact stretch.settled

/-- **Every stint is one of these.** -/
theorem Settled.course (h : s.Settled) (x : Stint) :
    Course s x (s.perform x) := by
  cases x with
  | takeTurn task => exact .aside id (h.takeTurn task)
  | start task op =>
      have e : Effect s (.enter task op) (s.enter task op, []) := effect_step s (.enter task op)
      rw [perform, start]
      generalize s.enter task op = s' at e
      cases e with
      | ignored hignores => exact .aside hignores (h.runOn task)
      | entered free =>
          have hsettled : Settled { s with state := (op.commit s.registry s.state).state } := h
          exact .commits free (hsettled.runOn_put task _ _)
  | saved task worked =>
      have e : Effect s (.endTurn task worked) (s.endTurn task, []) :=
        effect_step s (.endTurn task worked)
      rw [perform, Store.saved]
      generalize s.endTurn task = s' at e
      cases e with
      | ignored => exact .aside id (h.runOn task)
      | @saved _ _ uid settings after _ =>
          have hsettled : Settled { s with line := s.line.drop 1 } := h
          have hstretch := hsettled.runOn_put task [] after.next
          rw [after.failure?_next] at hstretch
          exact .aside id hstretch
  | answered task answer =>
      have e : Effect s (.take task answer) (s.take task answer, []) :=
        effect_step s (.take task answer)
      rw [perform, answered]
      generalize s.take task answer = s' at e
      cases e with
      | ignored hignores =>
          refine .aside ?_ (h.runOn task)
          rintro ⟨generation, query, hstage⟩
          exact hignores generation query hstage
      | @took _ _ generation query hstage =>
          have hsettled : Settled { s with state := (s.state.receive generation answer).1 } := h
          exact .receives hstage (hsettled.runOn_put task _
            (.done (.fetched (s.state.receive generation answer).2.2)))

end Store

end ProjectViews
