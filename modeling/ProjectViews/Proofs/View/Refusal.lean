/-
What the rules of a view forbid, and what becomes of it.

The rules are few: a view is set up once and before anything else, and it does not
filter by fields that the registry does not admit, nor order by fields that cannot be
ordered by.  `Forbidden` says so without a look at how operations check it, and `Verdict`
compares the two.

A refused operation has nothing left to do but to say so.  Until it does it stands among
the operations of its store, and the others go on as if it did not: taking an operation
out of a store and making a move of another one can be done in either order, which is
`step_leave`.
-/
import ProjectViews.Proofs.View.Schedule
import ProjectViews.Proofs.View.Turn

namespace ProjectViews

/-- The registry knows a field and does not exclude it. -/
def Registry.Admits (r : Registry) (f : Field) : Prop :=
  ∃ d, r.get? f = some d ∧ d.isExcluded = false

theorem Registry.admits_iff {r : Registry} {f : Field} : r.Admits f ↔ r.isExcluded f = false := by
  unfold Admits isExcluded
  cases r.get? f with
  | none => simp
  | some d => simp

/-- What may not be done with a view. -/
def Operation.Forbidden (r : Registry) (s : ViewState) : Operation → Prop
  | setUp _ _ _ _ => s.uid ≠ none
  | setFilters filters => (∃ f ∈ filters, ¬ r.Admits f.field) ∨ s.uid = none
  | setOrder order => r.isOrderable order.field = false ∨ s.uid = none
  | setFields _ | resetFields | hideField _ | reload => s.uid = none
  | fetchMore | projectChanged _ | projectDeleted _ => False

/-- Whether an operation asks the server anew, from the first page. -/
def Operation.renews : Operation → Bool
  | setUp _ _ _ _ | setFilters _ | setOrder _ | reload => true
  | _ => false

/-- What is said about an operation when it commits. -/
inductive Verdict (r : Registry) (s : ViewState) (op : Operation) (c : Commit) : Prop
  | refused (h : op.Forbidden r s) (v : Violation) (commit : c = .refuse s v)
  | granted (h : ¬ op.Forbidden r s) (next : ∀ v, c.next ≠ .done (.refused v))
      (generation : c.state.generation = if op.renews then s.generation + 1 else s.generation)

/-- A change of the fields is refused only to a view that is not set up. -/
theorem verdict_updateFields {r : Registry} {s : ViewState} {op : Operation}
    (forbidden : op.Forbidden r s ↔ s.uid = none) (renews : op.renews = false)
    (update : ViewState → List Field) : Verdict r s op (.updateFields s update) := by
  unfold Commit.updateFields
  split
  · rename_i huid
    exact .refused (forbidden.mpr huid) _ rfl
  · rename_i uid huid
    have hallowed : ¬ op.Forbidden r s := by simp [forbidden, huid]
    split
    · exact .granted hallowed (by simp [Commit.nothing]) (by simp [renews, Commit.nothing])
    · exact .granted hallowed (by simp) (by simp [renews])

/-- What is set up is granted its wish for a new generation. -/
theorem verdict_reset {r : Registry} {s s' : ViewState} {op : Operation}
    {next : Nat → Query → Next} (h : ¬ op.Forbidden r s) (renews : op.renews = true)
    (plain : ∀ g q v, next g q ≠ .done (.refused v)) (generation : s'.generation = s.generation) :
    Verdict r s op (.reset s' next) := by
  refine .granted h (plain _ _) ?_
  rw [if_pos renews, ← generation]
  rfl

/-- **An operation is refused just when it is forbidden.** -/
theorem Operation.verdict (r : Registry) (s : ViewState) (op : Operation) :
    Verdict r s op (op.commit r s) := by
  cases op with
  | setUp uid baseQuery fields saved =>
      simp only [commit]
      split
      · rename_i existing huid
        exact .refused (by simp [Forbidden, huid]) _ rfl
      · rename_i huid
        cases saved with
        | none => exact verdict_reset (by simp [Forbidden, huid]) rfl (by simp) rfl
        | some saved => exact verdict_reset (by simp [Forbidden, huid]) rfl (by simp) rfl
  | setFilters filters =>
      simp only [commit]
      split
      · rename_i f hf
        refine .refused (Or.inl ⟨f, List.mem_of_find?_eq_some hf, ?_⟩) _ rfl
        rw [Registry.admits_iff, List.find?_some hf]
        simp
      · rename_i hnone
        split
        · rename_i huid
          exact .refused (Or.inr huid) _ rfl
        · rename_i uid huid
          refine verdict_reset ?_ rfl (by simp) rfl
          rintro (⟨f, hf, hexcluded⟩ | hunset)
          · rw [Registry.admits_iff, Bool.not_eq_false] at hexcluded
            exact absurd hexcluded (List.find?_eq_none.mp hnone f hf)
          · simp [huid] at hunset
  | setOrder order =>
      simp only [commit]
      split
      · rename_i horder
        split
        · rename_i huid
          exact .refused (Or.inr huid) _ rfl
        · rename_i uid huid
          exact verdict_reset (by simp [Forbidden, huid, horder]) rfl (by simp) rfl
      · rename_i horder
        exact .refused (Or.inl (by simpa using horder)) _ rfl
  | setFields fields =>
      rw [commit]
      exact verdict_updateFields Iff.rfl rfl _
  | resetFields =>
      rw [commit]
      exact verdict_updateFields Iff.rfl rfl _
  | hideField field =>
      rw [commit]
      exact verdict_updateFields Iff.rfl rfl _
  | fetchMore =>
      simp only [commit]
      split
      · exact .granted id (by simp [Commit.nothing]) rfl
      · split
        · exact .granted id (by simp [Commit.nothing]) rfl
        · exact .granted id (by simp) rfl
  | reload =>
      simp only [commit]
      split
      · rename_i huid
        exact .refused huid _ rfl
      · rename_i uid huid
        exact verdict_reset (by simp [Forbidden, huid]) rfl (by simp) rfl
  | projectChanged row =>
      rw [commit_projectChanged]
      exact .granted id (by simp) rfl
  | projectDeleted uid =>
      rw [commit_projectDeleted]
      exact .granted id (by simp) rfl

/-! ### Taking an operation out of a store -/

namespace Store

/-- An operation that stands nowhere need not be taken out. -/
theorem leave_of_free {s : Store} {u : Nat} (h : s.stage? u = none) : s.leave u = s := by
  have htasks : s.tasks.filter (fun t => t.1 != u) = s.tasks := by
    rw [List.filter_eq_self]
    intro t ht
    rw [stage?, Option.map_eq_none_iff, List.find?_eq_none] at h
    simpa using h t ht
  rw [leave, htasks]

theorem leave_leave_self (s : Store) (u : Nat) : (s.leave u).leave u = s.leave u :=
  leave_of_free (stage?_leave_self s u)

/-- What was put somewhere is taken out again. -/
theorem leave_put_self (s : Store) (u : Nat) (stage : Stage) :
    (s.put u stage).leave u = s.leave u := by
  simp [leave, put]

theorem leave_put_of_ne (s : Store) {task u : Nat} (h : task ≠ u) (stage : Stage) :
    (s.leave u).put task stage = (s.put task stage).leave u := by
  simp [leave, put, h, Bool.and_comm]

theorem leave_comm (s : Store) (task u : Nat) :
    (s.leave u).leave task = (s.leave task).leave u := by
  simp [leave, Bool.and_comm]

/-- An operation that is taken out does not matter to the moves of the others. -/
theorem step_leave (s : Store) {u : Nat} {m : Move} (h : m.task ≠ u) :
    (s.leave u).step m = ((s.step m).1.leave u, (s.step m).2) := by
  have hstage : (s.leave u).stage? m.task = s.stage? m.task := (stage?_leave s u _).trans (if_neg h)
  cases m with
  | enter task op =>
      rw [Move.task] at h hstage
      simp only [step, enter, hstage]
      cases s.stage? task with
      | some stage => rfl
      | none => exact congrArg (·, []) (leave_put_of_ne { s with state := _ } h _)
  | goOn task =>
      rw [Move.task] at h hstage
      simp only [step, goOn, hstage]
      split
      · rename_i events next _
        cases next with
        | done result => exact congrArg (·, _) (leave_comm s task u)
        | fetch generation query => exact congrArg (·, _) (leave_put_of_ne s h _)
        | save uid after =>
            exact congrArg (·, _) (leave_put_of_ne { s with line := s.line ++ [task] } h _)
      · rfl
  | takeTurn task =>
      rw [Move.task] at h hstage
      simp only [step, takeTurn, hstage]
      split
      · rename_i uid after _
        by_cases hturn : s.line.head? = some task
        · have hturn' : (s.leave u).line.head? = some task := hturn
          rw [if_pos hturn, if_pos hturn']
          exact congrArg (·, _) (leave_put_of_ne s h _)
        · have hturn' : (s.leave u).line.head? ≠ some task := hturn
          rw [if_neg hturn, if_neg hturn']
      · rfl
  | endTurn task worked =>
      rw [Move.task] at h hstage
      simp only [step, endTurn, hstage]
      split
      · exact congrArg (·, []) (leave_put_of_ne { s with line := s.line.drop 1 } h _)
      · rfl
  | take task answer =>
      rw [Move.task] at h hstage
      simp only [step, take, hstage]
      split
      · exact congrArg (·, []) (leave_put_of_ne { s with state := _ } h _)
      · rfl

theorem saved?_leave (s : Store) {u : Nat} {m : Move} (h : m.task ≠ u) :
    (s.leave u).saved? m = s.saved? m := by
  cases m with
  | endTurn task worked =>
      have hne : task ≠ u := h
      rw [saved?, saved?, stage?_leave, if_neg hne]
  | enter task op => rfl
  | goOn task => rfl
  | takeTurn task => rfl
  | take task answer => rfl

/-- A move comes first, and then the others. -/
theorem play_cons (s : Store) (m : Move) (moves : List Move) :
    s.play (m :: moves)
      = (((s.step m).1.play moves).1, (s.step m).2 ++ ((s.step m).1.play moves).2) := rfl

theorem play_append (s : Store) (moves later : List Move) :
    s.play (moves ++ later)
      = (((s.play moves).1.play later).1, (s.play moves).2 ++ ((s.play moves).1.play later).2) := by
  simp only [play, run_append, moments_append, List.flatMap_append]

end Store

/-- The moves that others make. -/
def others (task : Nat) (moves : List Move) : List Move := moves.filter fun m => m.task != task

theorem others_cons_own {task : Nat} {m : Move} (h : m.task = task) (rest : List Move) :
    others task (m :: rest) = others task rest :=
  List.filter_cons_of_neg (by rw [h, bne_self_eq_false]; exact Bool.false_ne_true)

theorem others_cons_of_ne {task : Nat} {m : Move} (h : m.task ≠ task) (rest : List Move) :
    others task (m :: rest) = m :: others task rest :=
  List.filter_cons_of_pos (bne_iff_ne.mpr h)

/-- An operation that only has its result to return stands by until it does: whatever
happens meanwhile would happen without it. -/
theorem play_standing {s : Store} {task : Nat} {result : Result}
    (hstage : s.stage? task = some (.ready [] (.done result))) {wait : List Move}
    (hwait : .goOn task ∉ wait) :
    (s.run wait).stage? task = some (.ready [] (.done result)) ∧
      (s.leave task).play (others task wait) = ((s.run wait).leave task, (s.play wait).2) ∧
      returned ((s.leave task).moments (others task wait)) = returned (s.moments wait) := by
  induction wait generalizing s with
  | nil => exact ⟨hstage, rfl, rfl⟩
  | cons m rest ih =>
      obtain ⟨hm, hrest⟩ := not_or.mp (fun h => hwait (List.mem_cons.mpr h))
      by_cases htask : m.task = task
      · -- a move of its own that is not its to make
        have hignores : s.Ignores m := by
          cases m with
          | goOn u => exact absurd (congrArg Move.goOn htask.symm) hm
          | enter u op => simp [Store.Ignores, show u = task from htask, hstage]
          | takeTurn u => simp [Store.Ignores, show u = task from htask, hstage]
          | endTurn u worked => simp [Store.Ignores, show u = task from htask, hstage]
          | take u answer => simp [Store.Ignores, show u = task from htask, hstage]
        have hstep : s.step m = (s, []) := (effect_step s m).of_ignores hignores
        have hreturned : returned (s.moments (m :: rest)) = returned (s.moments rest) := by
          rw [Store.moments, hstep, returned_cons, Store.saved?_of_ignores hignores]
          rfl
        have hrun : s.run (m :: rest) = s.run rest := by
          rw [Store.run, List.foldl_cons, hstep]
          rfl
        rw [others_cons_own htask, hreturned, hrun, Store.play_cons, hstep]
        exact ih hstage hrest
      · have hstay : (s.step m).1.stage? task = some (.ready [] (.done result)) :=
          ((effect_step s m).stage?_of_ne (Ne.symm htask)).trans hstage
        obtain ⟨hafter, hplay, hreturned⟩ := ih hstay hrest
        have hstep := Store.step_leave s htask
        refine ⟨hafter, ?_, ?_⟩
        · rw [others_cons_of_ne htask, Store.play_cons, hstep, hplay]
          rfl
        · rw [others_cons_of_ne htask, Store.moments, Store.moments, hstep, returned_cons,
            returned_cons, Store.saved?_leave s htask, hreturned]

/-- When it goes on, it returns its result, and nothing else is left of it. -/
theorem play_returning {s : Store} {task : Nat} {result : Result}
    (hstage : s.stage? task = some (.ready [] (.done result))) {wait : List Move}
    (hwait : .goOn task ∉ wait) :
    s.play (wait ++ [.goOn task])
        = (((s.leave task).play (others task wait)).1,
           ((s.leave task).play (others task wait)).2 ++ [.finished task result]) ∧
      returned (s.moments (wait ++ [.goOn task]))
        = returned ((s.leave task).moments (others task wait)) := by
  obtain ⟨hafter, hplay, hreturned⟩ := play_standing hstage hwait
  have hend : (s.run wait).step (.goOn task)
      = ((s.run wait).leave task, [.finished task result]) := by
    rw [Store.step, Store.goOn, hafter]
    rfl
  constructor
  · have hlast : (s.run wait).play [.goOn task]
        = ((s.run wait).leave task, [.finished task result]) := by
      rw [Store.play_cons, hend]
      rfl
    rw [Store.play_append, hplay]
    exact Prod.ext (congrArg (·.1) hlast) (congrArg (_ ++ ·.2) hlast)
  · rw [hreturned, Store.moments_append, returned, List.filterMap_append]
    simp [Store.moments, Store.saved?, returned]

/-- **A refused operation says so when it goes on, and all else is as if it had never been
started.** -/
theorem play_of_refused {s : Store} {task : Nat} {op : Operation} {v : Violation}
    (free : s.stage? task = none) (commit : op.commit s.registry s.state = .refuse s.state v)
    {wait : List Move} (hwait : .goOn task ∉ wait) :
    s.play (.enter task op :: (wait ++ [.goOn task]))
        = ((s.play (others task wait)).1,
           (s.play (others task wait)).2 ++ [.finished task (.refused v)]) ∧
      returned (s.moments (.enter task op :: (wait ++ [.goOn task])))
        = returned (s.moments (others task wait)) := by
  have henter : s.enter task op = s.put task (.ready [] (.done (.refused v))) := by
    rw [Store.enter, free, commit]
    rfl
  have hself : (s.enter task op).stage? task = some (.ready [] (.done (.refused v))) := by
    rw [henter, Store.stage?_put_self]
  have hleave : (s.enter task op).leave task = s := by
    rw [henter, Store.leave_put_self, Store.leave_of_free free]
  have hrest := play_returning hself hwait
  rw [hleave] at hrest
  exact hrest

end ProjectViews
