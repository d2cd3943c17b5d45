/-
Settings are saved one after the other, and the latest ones last.

Operations commit while others save, so that any number of them may come to stand in
line with settings that are not saved yet.  None of them takes settings along: they are
read when it is the turn of an operation, as they are by then.  So what is handed over
last is what the view has at that time, and if the view has changed since, whoever has
changed it is still to have its turn.

`Saving` says this of all stores that runs reach.  It goes with what makes turns: only
the first one in line saves, and as long as it does nothing else is handed over.
-/
import Mathlib.Data.List.Forall2
import ProjectViews.Proofs.Json.Settings
import ProjectViews.Proofs.View.Turn
import ProjectViews.View.Rehearsal

namespace ProjectViews

/-! ### The invariant -/

/-- The settings of a save that has returned, with the view they were for. -/
def Save.pair (save : Save) : String × ViewSettings := (save.uid, save.settings)

/-- One operation saves at a time, and what was handed over last is what the view has, or
else somebody is going to hand over more. -/
structure Saving (past : List Moment) (s : Store) : Prop where
  /-- Whoever has to save has to save for the view. -/
  view : ∀ {task : Nat} {stage : Stage} {uid : String}, s.stage? task = some stage →
    stage.view? = some uid → s.state.uid = some uid
  /-- Only the first one in line saves. -/
  turn : ∀ {task : Nat} {uid : String} {settings : ViewSettings} {after : AfterSave},
    s.stage? task = some (.saving uid settings after) → s.line.head? = some task
  /-- Everything was handed over for the view. -/
  uid : ∀ save ∈ handed past, s.state.uid = some save.1
  /-- While one operation saves, all saves before it have returned. -/
  out : ∀ {task : Nat} {uid : String} {settings : ViewSettings} {after : AfterSave},
    s.stage? task = some (.saving uid settings after) →
      handed past = (returned past).map Save.pair ++ [(uid, settings)]
  /-- While none saves, all have returned. -/
  back : (∀ task uid settings after, s.stage? task ≠ some (.saving uid settings after)) →
    handed past = (returned past).map Save.pair
  /-- The last settings are the present ones, unless somebody owes them. -/
  current : ∀ save, (handed past).getLast? = some save →
    save.2 = s.state.settings ∨ ∃ task, s.Owes task

namespace Saving

theorem empty (r : Registry) : Saving [] (.empty r) where
  view := fun h => by cases h
  turn := fun h => by cases h
  uid := fun save h => by cases h
  out := fun h => by cases h
  back := fun _ => rfl
  current := fun save h => by cases h

variable {past : List Moment} {s : Store} {m : Move} {t : Store × List Output}

/-- When an operation has its turn and does not save yet, none does. -/
theorem none_saving (h : Saving past s) {task : Nat} {stage : Stage}
    (hturn : s.line.head? = some task) (hstage : s.stage? task = some stage)
    (hsaving : ∀ uid settings after, stage ≠ .saving uid settings after) (u : Nat) (uid : String)
    (settings : ViewSettings) (after : AfterSave) :
    s.stage? u ≠ some (.saving uid settings after) := by
  intro hu
  have hsame : u = task := Option.some.inj ((h.turn hu).symm.trans hturn)
  subst hsame
  exact hsaving uid settings after (Option.some.inj (hstage.symm.trans hu))

/-- What has returned was handed over for the view. -/
theorem uid_of_returned (h : Saving past s) {save : Save} (hsave : save ∈ returned past) :
    s.state.uid = some save.uid := by
  have hpair : save.pair ∈ (returned past).map Save.pair := List.mem_map_of_mem hsave
  by_cases hbusy : ∃ task uid settings after, s.stage? task = some (.saving uid settings after)
  · obtain ⟨task, uid, settings, after, hstage⟩ := hbusy
    refine h.uid save.pair ?_
    rw [h.out hstage]
    exact List.mem_append_left _ hpair
  · refine h.uid save.pair ?_
    rw [h.back fun task uid settings after hstage => hbusy ⟨task, uid, settings, after, hstage⟩]
    exact hpair

/-- A move by which nothing is handed over and nothing returns keeps it. -/
theorem rests (h : Saving past s) (e : Rests s m t) :
    Saving (past ++ [⟨s, m, t.2, t.1⟩]) t.1 := by
  have hhanded : handed (past ++ [⟨s, m, t.2, t.1⟩]) = handed past := by
    simp [handed_concat, e.handed]
  have hreturned : returned (past ++ [⟨s, m, t.2, t.1⟩]) = returned past := by
    simp [returned_concat, e.returned]
  refine ⟨?_, ?_, ?_, ?_, ?_, ?_⟩
  · intro u stage uid hstage hview
    rcases e.view u stage uid hstage hview with hnow | ⟨old, hold, hview'⟩
    · exact hnow
    · exact e.same uid (h.view hold hview')
  · intro u uid settings after hstage
    exact e.line u (h.turn ((e.saving u uid settings after).mp hstage))
  · rw [hhanded]
    exact fun save hsave => e.same save.1 (h.uid save hsave)
  · intro u uid settings after hstage
    rw [hhanded, hreturned]
    exact h.out ((e.saving u uid settings after).mp hstage)
  · intro hnone
    rw [hhanded, hreturned]
    exact h.back fun u uid settings after hu =>
      hnone u uid settings after ((e.saving u uid settings after).mpr hu)
  · intro save hsave
    rw [hhanded] at hsave
    rcases h.current save hsave with hcurrent | ⟨u, hu⟩
    · rcases e.settings with hkept | hfresh | howes
      · exact Or.inl (hcurrent.trans hkept.symm)
      · have huid := h.uid save (List.mem_of_getLast? hsave)
        simp [hfresh] at huid
      · exact Or.inr howes
    · exact Or.inr ⟨u, e.owes u hu⟩

/-- Handing the present settings over keeps it. -/
theorem hands {task : Nat} {uid : String} {after : AfterSave} (h : Saving past s)
    (e : Hands s m t task uid after) : Saving (past ++ [⟨s, m, t.2, t.1⟩]) t.1 := by
  have hhanded : handed (past ++ [⟨s, m, t.2, t.1⟩])
      = handed past ++ [(uid, s.state.settings)] := by
    simp [handed_concat, e.handed, Output.save?]
  have hreturned : returned (past ++ [⟨s, m, t.2, t.1⟩]) = returned past := by
    simp [returned_concat, e.returned]
  have huid : s.state.uid = some uid := h.view e.stage rfl
  have hnone := h.none_saving e.turn e.stage (by simp)
  have hself : t.1.stage? task = some (.saving uid s.state.settings after) :=
    (e.stages task).trans (if_pos rfl)
  have hothers : ∀ {u v settings next}, t.1.stage? u = some (.saving v settings next) →
      u = task := by
    intro u v settings next hu
    by_cases hne : u = task
    · exact hne
    · rw [e.stages, if_neg hne] at hu
      exact absurd hu (hnone u v settings next)
  refine ⟨?_, ?_, ?_, ?_, ?_, ?_⟩
  · intro u stage v hstage hview
    rw [e.state]
    by_cases hu : u = task
    · rw [hu, hself] at hstage
      obtain rfl := Option.some.inj hstage
      exact huid.trans hview
    · rw [e.stages, if_neg hu] at hstage
      exact h.view hstage hview
  · intro u v settings next hu
    rw [e.line, hothers hu]
    exact e.turn
  · rw [hhanded, e.state]
    intro save hsave
    rcases List.mem_append.mp hsave with hold | hnew
    · exact h.uid save hold
    · rw [List.mem_singleton.mp hnew]
      exact huid
  · intro u v settings next hu
    obtain rfl := hothers hu
    have hsame : uid = v ∧ s.state.settings = settings ∧ after = next := by
      simpa [hself] using hu
    rw [hhanded, hreturned, h.back hnone, hsame.1, hsame.2.1]
  · intro hnone'
    exact absurd hself (hnone' _ _ _ _)
  · intro save hsave
    rw [hhanded, List.getLast?_concat] at hsave
    rw [← Option.some.inj hsave, e.state]
    exact Or.inl rfl

/-- The return of a save keeps it. -/
theorem returns {task : Nat} {save : Save} {after : AfterSave} (h : Saving past s)
    (e : Returns s m t task save after) : Saving (past ++ [⟨s, m, t.2, t.1⟩]) t.1 := by
  have hhanded : handed (past ++ [⟨s, m, t.2, t.1⟩]) = handed past := by
    simp [handed_concat, e.handed]
  have hreturned : returned (past ++ [⟨s, m, t.2, t.1⟩]) = returned past ++ [save] := by
    simp [returned_concat, e.returned]
  have hself : t.1.stage? task = some (.ready [] after.next) :=
    (e.stages task).trans (if_pos rfl)
  have hnone : ∀ u v settings next, t.1.stage? u ≠ some (.saving v settings next) := by
    intro u v settings next hu
    by_cases hne : u = task
    · simp [hne, hself] at hu
    · rw [e.stages, if_neg hne] at hu
      exact hne (Option.some.inj ((h.turn hu).symm.trans (h.turn e.stage)))
  refine ⟨?_, ?_, ?_, ?_, ?_, ?_⟩
  · intro u stage v hstage hview
    rw [e.state]
    by_cases hu : u = task
    · rw [hu, hself] at hstage
      obtain rfl := Option.some.inj hstage
      -- it goes on to its end or to the server, but not to another save
      cases after <;> simp [AfterSave.next, Stage.view?] at hview
    · rw [e.stages, if_neg hu] at hstage
      exact h.view hstage hview
  · exact fun hu => absurd hu (hnone _ _ _ _)
  · rw [hhanded, e.state]
    exact h.uid
  · exact fun hu => absurd hu (hnone _ _ _ _)
  · intro _
    rw [hhanded, hreturned, h.out e.stage, List.map_append]
    rfl
  · intro last hlast
    rw [hhanded] at hlast
    rw [e.state]
    rcases h.current last hlast with hcurrent | ⟨u, old, hold, howes⟩
    · exact Or.inl hcurrent
    · refine Or.inr ⟨u, old, ?_, howes⟩
      have hu : u ≠ task := by
        rintro rfl
        obtain rfl := Option.some.inj (e.stage.symm.trans hold)
        simp [Stage.owes] at howes
      rw [e.stages, if_neg hu, hold]

end Saving

/-- It holds in every store that a run reaches. -/
theorem Reached.saving {r : Registry} {past : List Moment} {s : Store} (h : Reached r past s) :
    Saving past s := by
  induction h with
  | empty => exact .empty r
  | step _ e ih =>
      cases e.turn with
      | rests hturn => exact ih.rests hturn
      | hands hturn => exact ih.hands hturn
      | returns hturn => exact ih.returns hturn

/-! ### Handing over -/

/-- What is handed over is what the view has at the time. -/
theorem Effect.save {s : Store} {m : Move} {t : Store × List Output} (e : Effect s m t)
    {task : Nat} {uid : String} {settings : ViewSettings} (h : .save task uid settings ∈ t.2) :
    (∃ after, s.stage? task = some (.queued uid after)) ∧ settings = s.state.settings := by
  cases e with
  | ignored => simp at h
  | entered => simp at h
  | saved => simp at h
  | took => simp at h
  | ended => simp at h
  | asked => simp at h
  | joined => simp at h
  | @handed task' uid' after hstage =>
      have hsave : task = task' ∧ uid = uid' ∧ settings = s.state.settings := by simpa using h
      obtain ⟨rfl, rfl, hsettings⟩ := hsave
      exact ⟨⟨after, hstage⟩, hsettings⟩

/-- The settings that were handed over are those of states of the run, in the order of the
run. -/
theorem Reached.handed_states {r : Registry} {past : List Moment} {s : Store}
    (h : Reached r past s) : ∃ states : List ViewState,
      states.Sublist (past.map fun m => m.before.state) ∧
        (handed past).map (·.2) = states.map ViewState.settings := by
  induction h with
  | empty => exact ⟨[], List.Sublist.slnil, rfl⟩
  | @step past s m t _ e ih =>
      obtain ⟨states, hsub, hstates⟩ := ih
      rw [handed_concat, List.map_append, List.map_append, hstates]
      cases e.turn with
      | rests hturn =>
          refine ⟨states, hsub.trans (List.sublist_append_left _ _), ?_⟩
          simp [hturn.handed]
      | hands hturn =>
          refine ⟨states ++ [s.state], hsub.append (List.Sublist.refl _), ?_⟩
          simp [hturn.handed, Output.save?]
      | returns hturn =>
          refine ⟨states, hsub.trans (List.sublist_append_left _ _), ?_⟩
          simp [hturn.handed]

/-- An operation that owes settings keeps owing them until it hands some over, and does not
end before. -/
theorem Effect.owes {s : Store} {m : Move} {t : Store × List Output} (e : Effect s m t)
    {task : Nat} (h : s.Owes task) :
    (∃ uid, .save task uid s.state.settings ∈ t.2) ∨
      t.1.Owes task ∧ ∀ result, .finished task result ∉ t.2 := by
  obtain ⟨stage, hstage, howes⟩ := h
  have hfinished : ∀ result, .finished task result ∉ t.2 := by
    intro result hresult
    obtain ⟨events, hready⟩ := e.finished hresult
    obtain rfl := Option.some.inj (hready.symm.trans hstage)
    simp [Stage.owes] at howes
  cases e.turn with
  | rests hturn => exact Or.inr ⟨hturn.owes task ⟨stage, hstage, howes⟩, hfinished⟩
  | @hands task' uid after hturn =>
      by_cases htask : task = task'
      · subst htask
        exact Or.inl ⟨uid, by simp [hturn.handed]⟩
      · refine Or.inr ⟨⟨stage, ?_, howes⟩, hfinished⟩
        rw [hturn.stages, if_neg htask, hstage]
  | @returns task' save after hturn =>
      have htask : task ≠ task' := by
        rintro rfl
        obtain rfl := Option.some.inj (hturn.stage.symm.trans hstage)
        simp [Stage.owes] at howes
      refine Or.inr ⟨⟨stage, ?_, howes⟩, hfinished⟩
      rw [hturn.stages, if_neg htask, hstage]

/-- So from the moment in which it comes to owe them, it has handed some over or owes them
still. -/
theorem Reached.owes {r : Registry} {past : List Moment} {s : Store} (h : Reached r past s)
    {earlier later : List Moment} {e : Moment} (hpast : past = earlier ++ e :: later) {task : Nat}
    (howes : e.after.Owes task) :
    (∃ m ∈ later, ∃ uid, .save task uid m.before.state.settings ∈ m.outputs) ∨
      s.Owes task ∧ ∀ m ∈ later, ∀ result, .finished task result ∉ m.outputs := by
  induction h generalizing later with
  | empty => simp at hpast
  | @step past s m t _ effect ih =>
      rcases List.eq_nil_or_concat later with rfl | ⟨rest, last, rfl⟩
      · obtain ⟨-, hlast⟩ := List.append_inj' hpast rfl
        cases hlast
        exact Or.inr ⟨howes, fun m hm => by cases hm⟩
      · rw [List.concat_eq_append, ← List.cons_append, ← List.append_assoc] at hpast
        obtain ⟨hinit, hlast⟩ := List.append_inj' hpast rfl
        cases hlast
        rw [List.concat_eq_append]
        rcases ih hinit with ⟨b, hb, hsave⟩ | ⟨hs, hrest⟩
        · exact Or.inl ⟨b, List.mem_append_left _ hb, hsave⟩
        · rcases effect.owes hs with hsave | ⟨ht, hnow⟩
          · exact Or.inl ⟨_, List.mem_append_right _ List.mem_cons_self, hsave⟩
          · refine Or.inr ⟨ht, fun b hb => ?_⟩
            rcases List.mem_append.mp hb with hb' | hb'
            · exact hrest b hb'
            · rw [List.mem_singleton.mp hb']
              exact hnow

/-- An operation that has changed the settings owes them, unless it has set the view up. -/
theorem Effect.owes_of_changed {s : Store} {t : Store × List Output} {task : Nat}
    {op : Operation} (e : Effect s (.enter task op) t) (free : s.stage? task = none)
    (notSetUp : ∀ uid baseQuery fields saved, op ≠ .setUp uid baseQuery fields saved)
    (changed : t.1.state.settings ≠ s.state.settings) : t.1.Owes task := by
  cases e with
  | ignored h => exact absurd free h
  | entered =>
      rcases (op.commits s.registry s.state).settings_cases with
        hsame | ⟨uid, after, hnext⟩ | ⟨-, uid, baseQuery, fields, saved, hop⟩
      · exact absurd hsame changed
      · exact ⟨_, Store.stage?_put_self _ _ _, by rw [hnext]; rfl⟩
      · exact absurd hop (notSetUp uid baseQuery fields saved)

/-! ### What is kept -/

/-- A place for settings after a save.  One that has not worked has changed nothing. -/
def SettingsPlace.keepOne (p : SettingsPlace) (save : Save) : SettingsPlace :=
  if save.worked then (p.save save.uid save.settings.print).1 else p

/-- A place for settings after some saves. -/
def SettingsPlace.keep (p : SettingsPlace) (saves : List Save) : SettingsPlace :=
  saves.foldl keepOne p

namespace SettingsPlace

theorem works_keepOne {p : SettingsPlace} (h : p.Works) (save : Save) : (p.keepOne save).Works := by
  unfold keepOne
  by_cases hworked : save.worked = true
  · rw [if_pos hworked]
    exact (save_of_works h _ _).2.1
  · rw [if_neg hworked]
    exact h

theorem works_keep {p : SettingsPlace} (h : p.Works) (saves : List Save) :
    (p.keep saves).Works := by
  induction saves generalizing p with
  | nil => exact h
  | cons save rest ih => exact ih (works_keepOne h save)

/-- After a save that has worked, a place that works has its settings. -/
theorem text?_keep_concat {p : SettingsPlace} (h : p.Works) (saves : List Save) {save : Save}
    (worked : save.worked = true) :
    (p.keep (saves ++ [save])).text? save.uid = some save.settings.print := by
  rw [keep, List.foldl_append]
  show ((p.keep saves).keepOne save).text? save.uid = some save.settings.print
  rw [keepOne, if_pos worked]
  exact (save_of_works (works_keep h saves) _ _).2.2

/-- Saves for other views leave what is kept for a view alone. -/
theorem text?_keep_of_ne (p : SettingsPlace) {saves : List Save} {view : String}
    (h : ∀ save ∈ saves, view ≠ save.uid) : (p.keep saves).text? view = p.text? view := by
  induction saves generalizing p with
  | nil => rfl
  | cons save rest ih =>
      have hrest := ih (p.keepOne save) fun other hother => h other (List.mem_cons_of_mem _ hother)
      refine hrest.trans ?_
      unfold keepOne
      by_cases hworked : save.worked = true
      · rw [if_pos hworked]
        exact p.text?_save_of_ne (h save List.mem_cons_self) _
      · rw [if_neg hworked]

end SettingsPlace

/-! ### The rule of saving -/

/-- Settings that say what a view shows: its visible fields, its filters and its order. -/
structure ViewSettings.Says (settings : ViewSettings) (s : ViewState) : Prop where
  fields : settings.fields = some s.visibleFields
  filters : settings.filters = s.filters
  order : settings.order = s.order

/-- A view says this of itself, and nothing else does. -/
theorem ViewSettings.says_iff {settings : ViewSettings} {s : ViewState} :
    settings.Says s ↔ settings = s.settings := by
  constructor
  · intro h
    obtain ⟨fields, filters, order⟩ := settings
    rw [ViewState.settings, ← h.fields, ← h.filters, ← h.order]
  · rintro rfl
    exact ⟨rfl, rfl, rfl⟩

theorem ViewState.says_settings (s : ViewState) : s.settings.Says s := ⟨rfl, rfl, rfl⟩

/-- What is saved, in a store with its past, and what has been kept of it. -/
structure SavingRule (past : List Moment) (s : Store) : Prop where
  /-- Whatever happens next, settings that are handed over then are those that the view has
  by now, and they are saved for the view. -/
  now : ∀ m task uid settings, .save task uid settings ∈ (s.step m).2 →
    s.state.uid = some uid ∧ settings.Says s.state
  /-- So the settings that were handed over are those of states of the run, in the order of
  the run. -/
  order : ∃ states : List ViewState, states.Sublist (past.map fun m => m.before.state) ∧
    List.Forall₂ ViewSettings.Says ((handed past).map (·.2)) states
  /-- An operation that has changed the visible fields, the filters or the order, other than by
  setting the view up, has handed over since what the view had at some time afterwards, or it
  has not ended and still has to hand settings over. -/
  owed : ∀ earlier e later task op, past = earlier ++ e :: later → e.move = .enter task op →
    e.before.stage? task = none →
    (∀ uid baseQuery fields saved, op ≠ .setUp uid baseQuery fields saved) →
    (e.after.state.visibleFields ≠ e.before.state.visibleFields ∨
      e.after.state.filters ≠ e.before.state.filters ∨
      e.after.state.order ≠ e.before.state.order) →
      (∃ m ∈ later, ∃ uid settings, settings.Says m.before.state ∧
        .save task uid settings ∈ m.outputs) ∨
        s.Owes task ∧ ∀ m ∈ later, ∀ result, .finished task result ∉ m.outputs
  /-- When no operation has anything left to save and the last save has worked, it was for
  the view and for the present settings, and a place that works keeps these as a text from which
  they can be read. -/
  settled : (∀ task stage, s.stage? task = some stage → stage.view? = none) →
    ∀ save, (returned past).getLast? = some save → save.worked = true →
      s.state.uid = some save.uid ∧ save.settings.Says s.state ∧
        ViewSettings.parse save.settings.print = some save.settings ∧
        ∀ p : SettingsPlace, p.Works →
          (p.keep (returned past)).text? save.uid = some save.settings.print
  /-- What is kept for other views stays as it was. -/
  others : ∀ view, s.state.uid ≠ some view →
    ∀ p : SettingsPlace, (p.keep (returned past)).text? view = p.text? view

/-- **Saved settings are never overwritten by older ones, after every run.** -/
theorem run_savingRule (r : Registry) (moves : List Move) :
    SavingRule ((Store.empty r).moments moves) ((Store.empty r).run moves) := by
  have hreached := reached_run r moves
  generalize (Store.empty r).moments moves = past at hreached
  generalize (Store.empty r).run moves = s at hreached
  have hsaving := hreached.saving
  refine ⟨?_, ?_, ?_, ?_, ?_⟩
  · intro m task uid settings hsave
    obtain ⟨⟨after, hstage⟩, hsettings⟩ := (effect_step s m).save hsave
    exact ⟨hsaving.view hstage rfl, ViewSettings.says_iff.mpr hsettings⟩
  · obtain ⟨states, hsub, hstates⟩ := hreached.handed_states
    refine ⟨states, hsub, ?_⟩
    rw [hstates, List.forall₂_map_left_iff, List.forall₂_same]
    exact fun state _ => state.says_settings
  · intro earlier e later task op hpast hmove free notSetUp changed
    have he := (hreached.split hpast).2
    rw [hmove] at he
    have hchanged : e.after.state.settings ≠ e.before.state.settings := by
      intro hsame
      obtain ⟨hfields, hfilters, horder⟩ := ViewSettings.says_iff.mpr hsame.symm
      rcases changed with hc | hc | hc
      · exact hc (Option.some.inj hfields).symm
      · exact hc hfilters.symm
      · exact hc horder.symm
    refine (hreached.owes hpast (he.owes_of_changed free notSetUp hchanged)).imp_left ?_
    rintro ⟨m, hm, uid, hsave⟩
    exact ⟨m, hm, uid, _, m.before.state.says_settings, hsave⟩
  · intro hquiet save hlast hworked
    have hback : handed past = (returned past).map Save.pair := by
      refine hsaving.back fun task uid settings after hstage => ?_
      simpa [Stage.view?] using hquiet task _ hstage
    have hhanded : (handed past).getLast? = some save.pair := by
      rw [hback, List.getLast?_map, hlast]
      rfl
    have hsettings : save.settings = s.state.settings := by
      rcases hsaving.current save.pair hhanded with hcurrent | ⟨task, stage, hstage, howes⟩
      · exact hcurrent
      · rw [Stage.owes_of_view?_eq_none (hquiet task stage hstage)] at howes
        simp at howes
    refine ⟨hsaving.uid save.pair (List.mem_of_getLast? hhanded),
      ViewSettings.says_iff.mpr hsettings, save.settings.parse_print, ?_⟩
    intro p hworks
    obtain ⟨saves, hsaves⟩ := List.getLast?_eq_some_iff.mp hlast
    rw [hsaves, SettingsPlace.text?_keep_concat hworks saves hworked]
  · intro view hview p
    refine p.text?_keep_of_ne fun save hsave huid => hview ?_
    rw [huid]
    exact hsaving.uid_of_returned hsave

-- two changes come while the first one is being saved; the one that is undone at once is
-- never handed over
example :
    let moves : List Move := [.enter 0 (.setUp "home" "" [.name, .status] none),
      .enter 1 (.hideField .name), .goOn 1, .takeTurn 1,
      .enter 2 .resetFields, .goOn 2, .takeTurn 2, .enter 3 (.hideField .status), .goOn 3,
      .endTurn 1 true, .takeTurn 2, .endTurn 2 true, .takeTurn 3]
    let past := (Store.empty .ownProjects).moments moves
    (handed past).map (·.2.fields) = [some [.status], some [.name], some [.name]] ∧
      ((SettingsPlace.memory [] false false []).keep (returned past)).text? "home"
        = some (ViewSettings.print ⟨some [.name], [], none⟩) := by
  decide

end ProjectViews
