/-
Turns: who still has to save, who saves, and what has been saved.

An operation that has changed settings owes them until it hands some over.  For that it
stands in line, and while it saves it is still the first one there.

`Turn` says what a move comes to for all this.  It is `Effect` seen from the line:
whatever goes on between a view and the server is one case of it.
-/
import ProjectViews.Proofs.View.Run

namespace ProjectViews

/-- The view for which an operation still has settings saved. -/
def Stage.view? : Stage → Option String
  | ready _ (.save uid _) => some uid
  | queued uid _ => some uid
  | saving uid _ _ => some uid
  | _ => none

/-- Whether an operation still has to hand settings over. -/
def Stage.owes : Stage → Bool
  | ready _ (.save _ _) => true
  | queued _ _ => true
  | _ => false

/-- An operation that saves nothing owes nothing. -/
theorem Stage.owes_of_view?_eq_none {stage : Stage} (h : stage.view? = none) :
    stage.owes = false := by
  cases stage with
  | ready events next =>
      cases next with
      | save uid after => simp [view?] at h
      | done result => rfl
      | fetch generation query => rfl
  | queued uid after => simp [view?] at h
  | saving uid settings after => rfl
  | fetching generation query => rfl

/-- An operation still has to hand settings over. -/
def Store.Owes (s : Store) (task : Nat) : Prop :=
  ∃ stage, s.stage? task = some stage ∧ stage.owes = true

/-- A save that has returned: the view it was for, the settings and whether it has worked. -/
structure Save where
  uid : String
  settings : ViewSettings
  worked : Bool

/-- The save that returns with a move. -/
def Store.saved? (s : Store) : Move → Option Save
  | .endTurn task worked =>
    match s.stage? task with
    | some (.saving uid settings _) => some ⟨uid, settings, worked⟩
    | _ => none
  | _ => none

/-- What is handed over, if it is settings for a view. -/
def Output.save? : Output → Option (String × ViewSettings)
  | .save _ uid settings => some (uid, settings)
  | _ => none

/-- Everything that was handed over to be saved, the first settings first. -/
def handed (past : List Moment) : List (String × ViewSettings) :=
  past.flatMap fun m => m.outputs.filterMap Output.save?

/-- The saves that have returned, the first one first. -/
def returned (past : List Moment) : List Save := past.filterMap fun m => m.before.saved? m.move

theorem handed_concat (past : List Moment) (m : Moment) :
    handed (past ++ [m]) = handed past ++ m.outputs.filterMap Output.save? := by
  simp [handed]

theorem returned_cons (m : Moment) (past : List Moment) :
    returned (m :: past) = (m.before.saved? m.move).toList ++ returned past := by
  rw [returned, List.filterMap_cons]
  cases m.before.saved? m.move <;> rfl

theorem returned_concat (past : List Moment) (m : Moment) :
    returned (past ++ [m]) = returned past ++ (m.before.saved? m.move).toList := by
  rw [returned, returned, List.filterMap_append, List.filterMap_cons]
  cases m.before.saved? m.move <;> rfl

/-! ### What a move comes to for the saves -/

/-- Nothing is handed over and nothing returns. -/
structure Rests (s : Store) (m : Move) (t : Store × List Output) : Prop where
  /-- Who saves goes on with it, and nobody else begins. -/
  saving : ∀ u uid settings after, t.1.stage? u = some (.saving uid settings after) ↔
    s.stage? u = some (.saving uid settings after)
  owes : ∀ u, s.Owes u → t.1.Owes u
  /-- If the settings of a view that is set up change, somebody owes them. -/
  settings : t.1.state.settings = s.state.settings ∨ s.state.uid = none ∨ ∃ u, t.1.Owes u
  same : ∀ uid, s.state.uid = some uid → t.1.state.uid = some uid
  /-- Who comes to save does so for the view. -/
  view : ∀ u stage uid, t.1.stage? u = some stage → stage.view? = some uid →
    t.1.state.uid = some uid ∨ ∃ old, s.stage? u = some old ∧ old.view? = some uid
  line : ∀ u, s.line.head? = some u → t.1.line.head? = some u
  handed : t.2.filterMap Output.save? = []
  returned : s.saved? m = none

/-- The first one in line hands the settings over as they are. -/
structure Hands (s : Store) (m : Move) (t : Store × List Output) (task : Nat) (uid : String)
    (after : AfterSave) : Prop where
  stage : s.stage? task = some (.queued uid after)
  turn : s.line.head? = some task
  state : t.1.state = s.state
  line : t.1.line = s.line
  stages : ∀ u, t.1.stage? u
    = if u = task then some (.saving uid s.state.settings after) else s.stage? u
  handed : t.2 = [.save task uid s.state.settings]
  returned : s.saved? m = none

/-- A save returns, and the line moves on. -/
structure Returns (s : Store) (m : Move) (t : Store × List Output) (task : Nat) (save : Save)
    (after : AfterSave) : Prop where
  stage : s.stage? task = some (.saving save.uid save.settings after)
  state : t.1.state = s.state
  line : t.1.line = s.line.drop 1
  stages : ∀ u, t.1.stage? u = if u = task then some (.ready [] after.next) else s.stage? u
  handed : t.2 = []
  returned : s.saved? m = some save

/-- What a move comes to for the line and for the saves. -/
inductive Turn (s : Store) (m : Move) (t : Store × List Output) : Prop
  | rests (h : Rests s m t)
  | hands {task : Nat} {uid : String} {after : AfterSave} (h : Hands s m t task uid after)
  | returns {task : Nat} {save : Save} {after : AfterSave} (h : Returns s m t task save after)

theorem Store.saved?_of_ignores {s : Store} {m : Move} (h : s.Ignores m) : s.saved? m = none := by
  cases m with
  | endTurn task worked =>
      rw [saved?]
      split
      · rename_i hstage
        exact absurd hstage (h _ _ _)
      · rfl
  | enter task op => rfl
  | goOn task => rfl
  | takeTurn task => rfl
  | take task answer => rfl

/-- An operation that moves without handing anything over: it did not save before and does
not save now, and if it owed settings it owes them still. -/
theorem Rests.of_put {s : Store} {m : Move} {t : Store × List Output} {task : Nat}
    {stage' : Option Stage}
    (stages : ∀ u, t.1.stage? u = if u = task then stage' else s.stage? u)
    (notSaving : ∀ uid settings after, s.stage? task ≠ some (.saving uid settings after) ∧
      stage' ≠ some (.saving uid settings after))
    (owes : s.Owes task → t.1.Owes task)
    (settings : t.1.state.settings = s.state.settings ∨ s.state.uid = none ∨ ∃ u, t.1.Owes u)
    (same : ∀ uid, s.state.uid = some uid → t.1.state.uid = some uid)
    (view : ∀ stage uid, stage' = some stage → stage.view? = some uid →
      t.1.state.uid = some uid ∨ ∃ old, s.stage? task = some old ∧ old.view? = some uid)
    (line : ∀ u, s.line.head? = some u → t.1.line.head? = some u)
    (handed : t.2.filterMap Output.save? = []) (returned : s.saved? m = none) : Rests s m t := by
  refine ⟨?_, ?_, settings, same, ?_, line, handed, returned⟩
  · intro u uid settings after
    rw [stages]
    by_cases hu : u = task
    · rw [if_pos hu, hu]
      exact iff_of_false (notSaving uid settings after).2 (notSaving uid settings after).1
    · rw [if_neg hu]
  · intro u hu
    by_cases htask : u = task
    · rw [htask] at hu ⊢
      exact owes hu
    · obtain ⟨stage, hstage, howes⟩ := hu
      exact ⟨stage, (stages u).trans ((if_neg htask).trans hstage), howes⟩
  · intro u stage uid hstage hview
    rw [stages] at hstage
    by_cases hu : u = task
    · rw [if_pos hu] at hstage
      rw [hu]
      exact view stage uid hstage hview
    · rw [if_neg hu] at hstage
      exact Or.inr ⟨stage, hstage, hview⟩

/-- A started operation owes the settings if it has changed them. -/
theorem Rests.of_entered {s : Store} {task : Nat} {op : Operation} {c : Commit}
    (free : s.stage? task = none) (h : Commits s.state op c) :
    Rests s (.enter task op)
      ({ s with state := c.state }.put task (.ready c.events c.next), []) := by
  refine .of_put (fun u => Store.stage?_put _ task u _) ?_ ?_ ?_ (fun _ => h.uid_of_some) ?_
    (fun _ hu => hu) rfl rfl
  · simp [free]
  · rintro ⟨stage, hstage, -⟩
    simp [free] at hstage
  · rcases h.settings_cases with hsame | ⟨uid, after, hnext⟩ | ⟨hfresh, -⟩
    · exact Or.inl hsame
    · exact Or.inr (Or.inr ⟨task, _, Store.stage?_put_self _ _ _, by rw [hnext]; rfl⟩)
    · exact Or.inr (Or.inl hfresh)
  · intro stage uid hstage hview
    obtain rfl := Option.some.inj hstage
    cases hnext : c.next with
    | save uid' after =>
        obtain rfl : uid' = uid := by simpa [Stage.view?, hnext] using hview
        exact Or.inl (h.uid_of_save hnext)
    | done result => simp [Stage.view?, hnext] at hview
    | fetch generation query => simp [Stage.view?, hnext] at hview

/-- An operation that neither owed nor saved before and does neither afterwards has nothing
to do with the line. -/
theorem Rests.of_idle {s : Store} {m : Move} {t : Store × List Output} {task : Nat}
    {stage : Stage} {stage' : Option Stage} (hstage : s.stage? task = some stage)
    (before : stage.view? = none) (after : ∀ stage, stage' = some stage → stage.view? = none)
    (stages : ∀ u, t.1.stage? u = if u = task then stage' else s.stage? u)
    (uid : t.1.state.uid = s.state.uid) (settings : t.1.state.settings = s.state.settings)
    (line : t.1.line = s.line) (handed : t.2.filterMap Output.save? = [])
    (returned : s.saved? m = none) : Rests s m t := by
  refine .of_put stages ?_ ?_ (Or.inl settings) (fun v hv => uid.trans hv) ?_
    (fun u hu => line ▸ hu) handed returned
  · intro v settings next
    constructor
    · intro hsaving
      obtain rfl := Option.some.inj (hstage.symm.trans hsaving)
      simp [Stage.view?] at before
    · intro hsaving
      simpa [Stage.view?] using after _ hsaving
  · rintro ⟨old, hold, howes⟩
    obtain rfl := Option.some.inj (hstage.symm.trans hold)
    simp [Stage.owes_of_view?_eq_none before] at howes
  · intro new v hnew hview
    simp [after new hnew] at hview

/-- **Every effect is one of these for the line and the saves.** -/
theorem Effect.turn {s : Store} {m : Move} {t : Store × List Output} (e : Effect s m t) :
    Turn s m t := by
  cases e with
  | ignored h =>
      exact .rests ⟨fun _ _ _ _ => Iff.rfl, fun _ hu => hu, Or.inl rfl, fun _ hu => hu,
        fun _ stage _ hstage hview => Or.inr ⟨stage, hstage, hview⟩, fun _ hu => hu, rfl,
        Store.saved?_of_ignores h⟩
  | entered h => exact .rests (.of_entered h (Operation.commits _ _ _))
  | @ended task events result h =>
      refine .rests (.of_idle h rfl ?_ (fun u => Store.stage?_leave s task u) rfl rfl rfl ?_ rfl)
      · simp
      · simp [Output.save?]
  | @asked task events generation query h =>
      refine .rests (.of_idle h rfl ?_ (fun u => Store.stage?_put s task u _) rfl rfl rfl ?_ rfl)
      · simp [Stage.view?]
      · simp [Output.save?]
  | @joined task events uid after h =>
      refine .rests (.of_put (fun u => Store.stage?_put s task u _) ?_ ?_ (Or.inl rfl)
        (fun _ hu => hu) ?_ ?_ ?_ rfl)
      · simp [h]
      · exact fun _ => ⟨.queued uid after, Store.stage?_put_self _ _ _, rfl⟩
      · intro stage v hstage hview
        obtain rfl := Option.some.inj hstage
        exact Or.inr ⟨_, h, hview⟩
      · intro u hu
        show (s.line ++ [task]).head? = some u
        rw [List.head?_append, hu]
        rfl
      · simp [Output.save?]
  | @handed task uid after h turn =>
      exact .hands ⟨h, turn, rfl, rfl, fun u => Store.stage?_put s task u _, rfl, rfl⟩
  | @saved task worked uid settings after h =>
      have hreturned : s.saved? (.endTurn task worked) = some ⟨uid, settings, worked⟩ := by
        rw [Store.saved?, h]
      exact .returns ⟨h, rfl, rfl, fun u => Store.stage?_put _ task u _, rfl, hreturned⟩
  | @took task answer generation query h =>
      obtain ⟨-, huid, -, hsettings⟩ := s.state.receive_keeps generation answer
      refine .rests (.of_idle h rfl ?_ (fun u => Store.stage?_put _ task u _) huid hsettings rfl
        rfl rfl)
      simp [Stage.view?]

end ProjectViews
