/-
Rehearsals make runs.

A rehearsal does not choose freely among the moves of a store: it lets an operation go on
until it waits, answers as its script says, and hands out turns as soon as there are any.
But whatever it does to a store it does by moves, so what holds after every run of a
store holds throughout every rehearsal.
-/
import ProjectViews.Proofs.View.Run
import ProjectViews.View.Rehearsal

namespace ProjectViews

/-! ### Steps without a wait are moves -/

namespace Store

/-- What a run comes to: the store it ends in, and all that it gives to the outside. -/
def play (s : Store) (moves : List Move) : Store × List Output :=
  (s.run moves, (s.moments moves).flatMap (·.outputs))

variable (s : Store) (task : Nat)

theorem start_eq_play (op : Operation) :
    s.start task op = s.play [.enter task op, .goOn task, .takeTurn task] := by
  simp [start, runOn, play, run, moments, step]

theorem saved_eq_play (worked : Bool) :
    s.saved task = s.play [.endTurn task worked, .goOn task, .takeTurn task] := by
  simp [saved, runOn, play, run, moments, step]

theorem answered_eq_play (answer : Except Failure RowPage) :
    s.answered task answer = s.play [.take task answer, .goOn task, .takeTurn task] := by
  simp [answered, runOn, play, run, moments, step]

theorem takeTurn_eq_play : s.takeTurn task = s.play [.takeTurn task] := by
  simp [play, run, moments, step]

end Store

/-! ### Rehearsals -/

namespace Rehearsal

/-- Every store of a rehearsal is one that a run reaches. -/
def Played (r : Rehearsal) : Prop :=
  ∀ s ∈ r.stores, ∃ moves, s = (Store.empty r.registry).run moves

/-- What a rehearsal is otherwise does not matter for it. -/
theorem Played.congr {r r' : Rehearsal} (h : Played r) (stores : r'.stores = r.stores)
    (registry : r'.registry = r.registry) : Played r' := by
  intro s hs
  rw [stores] at hs
  rw [registry]
  exact h s hs

theorem played_begin (registry : Registry) (script : List Reply) (place : SettingsPlace) :
    Played (.begin registry script place) := by
  intro s hs
  exact ⟨[], List.mem_singleton.mp hs⟩

/-- A store may be taken on by any run. -/
theorem Played.setStore {r : Rehearsal} (h : Played r) (i : Nat) (moves : List Move) :
    Played (r.setStore i ((r.store i).run moves)) := by
  intro s hs
  by_cases hi : i < r.stores.length
  · rcases List.mem_or_eq_of_mem_set hs with hold | rfl
    · exact h s hold
    · have hstore : r.store i = r.stores[i] := by simp [store, hi]
      obtain ⟨before, hbefore⟩ := h _ (List.getElem_mem hi)
      refine ⟨before ++ moves, ?_⟩
      rw [hstore, hbefore, Store.run_append]
      rfl
  · have hset : (r.setStore i ((r.store i).run moves)).stores = r.stores :=
      List.set_eq_of_length_le (Nat.not_lt.mp hi)
    rw [hset] at hs
    exact h s hs

theorem played_foldl {f : Rehearsal → Output → Rehearsal}
    (hf : ∀ r o, Played r → Played (f r o)) (outputs : List Output) {r : Rehearsal}
    (h : Played r) : Played (outputs.foldl f r) := by
  induction outputs generalizing r with
  | nil => exact h
  | cons o rest ih => exact ih (hf r o h)

theorem Played.note {r : Rehearsal} (h : Played r) (i : Nat) (e : Event) : Played (r.note i e) := by
  unfold Rehearsal.note
  by_cases hi : i = r.current
  · rw [if_pos hi]
    exact h.congr rfl rfl
  · rw [if_neg hi]
    exact h

theorem Played.finish {r : Rehearsal} (h : Played r) (task : Nat) (result : Result) :
    Played (r.finish task result) := h.congr rfl rfl

theorem Played.deliver {r : Rehearsal} (h : Played r) (i task : Nat)
    (answer : Except Failure RowPage) : Played (r.deliver i task answer) := by
  rw [Rehearsal.deliver, Store.answered_eq_play]
  refine played_foldl ?_ _ (h.setStore i [.take task answer, .goOn task, .takeTurn task])
  intro r o hr
  cases o with
  | event e => exact hr.note i e
  | finished task result => exact hr.finish task result
  | request task query => exact hr
  | save task uid settings => exact hr

theorem Played.ask {r : Rehearsal} (h : Played r) (i task : Nat) (query : Query) :
    Played (r.ask i task query) := by
  unfold Rehearsal.ask
  have hlog : Played { r with log := { r.log with requests := r.log.requests ++ [query] } } :=
    h.congr rfl rfl
  dsimp only
  split
  · exact hlog.deliver i task _
  · rename_i reply rest _
    split
    · exact h.congr rfl rfl
    · have hrest : Played { r with
          script := rest, log := { r.log with requests := r.log.requests ++ [query] } } :=
        h.congr rfl rfl
      exact hrest.deliver i task _

theorem Played.completeSave {r : Rehearsal} (h : Played r) (i task : Nat) (view : String)
    (settings : ViewSettings) : Played (r.completeSave i task view settings) := by
  unfold Rehearsal.completeSave
  dsimp only
  rw [Store.saved_eq_play _ _ true]
  refine played_foldl ?_ _ (Played.setStore (h.congr rfl rfl) i
    [.endTurn task true, .goOn task, .takeTurn task])
  intro r o hr
  cases o with
  | event e => exact hr.note i e
  | request task query => exact hr.ask i task query
  | finished task result => exact hr.finish task result
  | save task uid settings => exact hr

theorem Played.handOver {r : Rehearsal} (h : Played r) (i task : Nat) (view : String)
    (settings : ViewSettings) : Played (r.handOver i task view settings) := by
  unfold Rehearsal.handOver
  dsimp only
  split
  · exact h.congr rfl rfl
  · have hcount : Played { r with saveCount := r.saveCount + 1 } := h.congr rfl rfl
    exact hcount.completeSave i task view settings

theorem Played.carryOut {r : Rehearsal} (h : Played r) (i : Nat) (outputs : List Output) :
    Played (r.carryOut i outputs) := by
  refine played_foldl ?_ outputs h
  intro r o hr
  cases o with
  | event e => exact hr.note i e
  | request task query => exact hr.ask i task query
  | save task view settings => exact hr.handOver i task view settings
  | finished task result => exact hr.finish task result

theorem Played.takeTurns (i fuel : Nat) {r : Rehearsal} (h : Played r) :
    Played (Rehearsal.takeTurns i fuel r) := by
  induction fuel generalizing r with
  | zero => exact h
  | succ fuel ih =>
      rw [Rehearsal.takeTurns]
      split
      · exact h
      · rename_i task _
        rw [Store.takeTurn_eq_play]
        exact ih ((h.setStore i [.takeTurn task]).carryOut i _)

theorem Played.settle {r : Rehearsal} (h : Played r) (i : Nat) : Played (r.settle i) :=
  h.takeTurns i _

/-! ### The steps of a rehearsal -/

theorem Played.start {r : Rehearsal} (h : Played r) (task : Nat) (op : Operation) :
    Played (r.start task op) := by
  rw [Rehearsal.start, Store.start_eq_play]
  have hstore := h.setStore r.current [.enter task op, .goOn task, .takeTurn task]
  exact (hstore.carryOut r.current _).settle r.current

theorem Played.release {r : Rehearsal} (h : Played r) (name : String) :
    Played (r.release name).1 := by
  unfold Rehearsal.release
  split
  · exact h
  · rename_i held _
    have hrest : Played { r with held := r.held.eraseP fun h => h.1 == name } := h.congr rfl rfl
    cases held with
    | answer i task answer => exact (hrest.deliver i task answer).settle i
    | save i task view settings => exact (hrest.completeSave i task view settings).settle i

theorem Played.newStore {r : Rehearsal} (h : Played r) : Played r.newStore := by
  intro s hs
  rcases List.mem_append.mp hs with hold | hnew
  · exact h s hold
  · exact ⟨[], List.mem_singleton.mp hnew⟩

theorem Played.closeStorage {r : Rehearsal} (h : Played r) : Played r.closeStorage := by
  unfold Rehearsal.closeStorage
  split
  · exact h.congr rfl rfl
  · exact h

/-- The rehearsals that steps lead to.  Marks, logs and the selection are no concern of the
stores, and any change of them counts as a step here. -/
inductive Rehearsed (registry : Registry) (script : List Reply) (place : SettingsPlace) :
    Rehearsal → Prop
  | begin : Rehearsed registry script place (.begin registry script place)
  | start {r : Rehearsal} (h : Rehearsed registry script place r) (task : Nat) (op : Operation) :
      Rehearsed registry script place (r.start task op)
  | release {r : Rehearsal} (h : Rehearsed registry script place r) (name : String) :
      Rehearsed registry script place (r.release name).1
  | newStore {r : Rehearsal} (h : Rehearsed registry script place r) :
      Rehearsed registry script place r.newStore
  | closeStorage {r : Rehearsal} (h : Rehearsed registry script place r) :
      Rehearsed registry script place r.closeStorage
  | note {r : Rehearsal} (h : Rehearsed registry script place r) (selection : Selection)
      (marks : List (String × Snapshot)) (log : Log) :
      Rehearsed registry script place { r with selection := selection, marks := marks, log := log }

/-- **Whatever a rehearsal does, its stores are reached by runs.** -/
theorem Rehearsed.played {registry : Registry} {script : List Reply} {place : SettingsPlace}
    {r : Rehearsal} (h : Rehearsed registry script place r) : Played r := by
  induction h with
  | begin => exact played_begin registry script place
  | start _ task op ih => exact ih.start task op
  | release _ name ih => exact ih.release name
  | newStore _ ih => exact ih.newStore
  | closeStorage _ ih => exact ih.closeStorage
  | note _ selection marks log ih => exact ih.congr rfl rfl

end Rehearsal

end ProjectViews
