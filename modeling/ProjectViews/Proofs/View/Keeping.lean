/-
A view does not notice whether its settings are kept.

Here a store has a place where its settings are kept.  A set-up loads what is kept for its view
before it commits, and when a save returns it has worked or not, and only if it has does the place
change.  Which saves work is up to the place: it is said for each one by its number.

Let the same happen twice, with the same answers and in the same order, while other saves fail.
Then all is the same but the place.  What a save returns is not looked at, so a difference could
only come back by what is loaded.  But as long as nothing is set up nothing is saved, and so what
is loaded is what the places have had from the beginning; and once something is set up every
further set-up is refused, whatever it has loaded.  `Alike` says just this.
-/
import ProjectViews.Proofs.View.Saving
import Mathlib.Logic.Function.Basic

namespace ProjectViews

/-! ### A store and its place for settings -/

/-- A store with the place where its settings are kept. -/
structure Desk where
  store : Store
  place : SettingsPlace
  /-- What set-ups have loaded, by the number of the operation. -/
  loaded : Nat → Option ViewSettings
  /-- The saves that have returned, the first one first. -/
  saves : List Save

/-- One thing that can happen. -/
inductive Chore where
  /-- A set-up loads what is kept for its view. -/
  | load (task : Nat) (view : String)
  | move (m : Move)

namespace Desk

def start (r : Registry) (place : SettingsPlace) : Desk := ⟨.empty r, place, fun _ => none, []⟩

/-- A move with what it has from the place: a set-up commits with what it has loaded, and a save
returns as the place says. -/
def furnish (d : Desk) (works : Nat → Bool) : Move → Move
  | .enter task (.setUp uid baseQuery fields _) =>
    .enter task (.setUp uid baseQuery fields (d.loaded task))
  | .endTurn task _ => .endTurn task (works d.saves.length)
  | m => m

/-- What a chore comes to, and what it gives to the outside. -/
def step (works : Nat → Bool) (d : Desk) : Chore → Desk × List Output
  | .load task view =>
    ({ d with loaded := Function.update d.loaded task (d.place.load view) }, [])
  | .move m =>
    let m := d.furnish works m
    let saved := (d.store.saved? m).toList
    (⟨(d.store.step m).1, d.place.keep saved, d.loaded, d.saves ++ saved⟩, (d.store.step m).2)

def run (works : Nat → Bool) (d : Desk) (chores : List Chore) : Desk :=
  chores.foldl (fun d c => (d.step works c).1) d

/-- What there is to see of each chore: the store before it, what it gives to the outside, and the
store after it. -/
def course (works : Nat → Bool) (d : Desk) : List Chore → List (Store × List Output × Store)
  | [] => []
  | c :: rest =>
    (d.store, (d.step works c).2, (d.step works c).1.store) :: (d.step works c).1.course works rest

/-! ### What is left in the place -/

/-- The store is one that a run reaches, and the place has what the saves that worked have left
in it. -/
structure Sound (r : Registry) (place : SettingsPlace) (d : Desk) : Prop where
  reached : ∃ past, Reached r past d.store ∧ returned past = d.saves
  place : d.place = place.keep d.saves

variable {r : Registry} {place : SettingsPlace} {d : Desk}

theorem sound_start (r : Registry) (place : SettingsPlace) : Sound r place (.start r place) where
  reached := ⟨[], .empty, rfl⟩
  place := rfl

theorem Sound.step (h : Sound r place d) (works : Nat → Bool) (c : Chore) :
    Sound r place (d.step works c).1 := by
  obtain ⟨past, hreached, hreturned⟩ := h.reached
  cases c with
  | load task view => exact ⟨⟨past, hreached, hreturned⟩, h.place⟩
  | move m =>
      refine ⟨⟨_, hreached.step (effect_step d.store (d.furnish works m)), ?_⟩, ?_⟩
      · rw [returned_concat, hreturned]
        rfl
      · show d.place.keep _ = place.keep (d.saves ++ _)
        rw [SettingsPlace.keep, SettingsPlace.keep, List.foldl_append, h.place]
        rfl

theorem Sound.run (h : Sound r place d) (works : Nat → Bool) (chores : List Chore) :
    Sound r place (d.run works chores) := by
  induction chores generalizing d with
  | nil => exact h
  | cons c rest ih => exact ih (h.step works c)

/-- What has been saved was saved for the view. -/
theorem Sound.uid_of_mem (h : Sound r place d) {save : Save} (hsave : save ∈ d.saves) :
    d.store.state.uid = some save.uid := by
  obtain ⟨past, hreached, hreturned⟩ := h.reached
  rw [← hreturned] at hsave
  exact hreached.saving.uid_of_returned hsave

/-- So only what is kept for the view itself has changed. -/
theorem Sound.text?_of_ne (h : Sound r place d) {view : String}
    (other : d.store.state.uid ≠ some view) : d.place.text? view = place.text? view := by
  rw [h.place]
  refine place.text?_keep_of_ne ?_
  intro save hsave hview
  exact other (hview ▸ h.uid_of_mem hsave)

/-- As long as nothing is set up nothing has. -/
theorem Sound.place_of_fresh (h : Sound r place d) (fresh : d.store.state.uid = none) :
    d.place = place := by
  have hsaves : d.saves = [] := by
    refine List.eq_nil_iff_forall_not_mem.mpr fun save hsave => ?_
    have huid := h.uid_of_mem hsave
    rw [fresh] at huid
    cases huid
  rw [h.place, hsaves, SettingsPlace.keep, List.foldl_nil]

/-- A view that is set up stays so. -/
theorem uid_of_step {s : Store} {m : Move} {uid : String} (h : s.state.uid = some uid) :
    (s.step m).1.state.uid = some uid := by
  cases (effect_step s m).turn with
  | rests e => exact e.same uid h
  | hands e => rw [e.state, h]
  | returns e => rw [e.state, h]

/-! ### Two desks at which the same happens -/

/-- The stores are the same, the same saves have returned, with whatever outcome, and before
anything is set up set-ups have loaded the same. -/
structure Alike (d d' : Desk) : Prop where
  store : d'.store = d.store
  saves : d'.saves.map Save.pair = d.saves.map Save.pair
  loaded : d.store.state.uid = none → d'.loaded = d.loaded

/-- Whatever is loaded before anything is set up is the same in both places. -/
def LoadsAlike (place place' : SettingsPlace) (works : Nat → Bool) (d : Desk)
    (chores : List Chore) : Prop :=
  ∀ before task view after, chores = before ++ .load task view :: after →
    (d.run works before).store.state.uid = none → place'.load view = place.load view

theorem LoadsAlike.tail {place' : SettingsPlace} {works : Nat → Bool} {c : Chore}
    {rest : List Chore} (h : LoadsAlike place place' works d (c :: rest)) :
    LoadsAlike place place' works (d.step works c).1 rest := by
  intro before task view after hrest fresh
  refine h (c :: before) task view after ?_ fresh
  rw [hrest, List.cons_append]

/-- What a set-up has loaded makes no difference once something is set up. -/
theorem enter_setUp_of_uid {s : Store} {existing : String} (h : s.state.uid = some existing)
    (task : Nat) (uid baseQuery : String) (fields : List Field)
    (saved saved' : Option ViewSettings) :
    s.enter task (.setUp uid baseQuery fields saved')
      = s.enter task (.setUp uid baseQuery fields saved) := by
  simp only [Store.enter, Operation.commit, h]

namespace Alike

variable {d' : Desk}

/-- A move comes to the same at both. -/
theorem step_furnish (h : Alike d d') (works works' : Nat → Bool) (m : Move) :
    d.store.step (d'.furnish works' m) = d.store.step (d.furnish works m) := by
  cases m with
  | enter task op =>
      cases op with
      | setUp uid baseQuery fields saved =>
          cases huid : d.store.state.uid with
          | none => rw [furnish, furnish, h.loaded huid]
          | some existing =>
              show (d.store.enter task _, []) = (d.store.enter task _, [])
              rw [enter_setUp_of_uid huid]
      | _ => rfl
  | endTurn task worked => rfl
  | goOn task => rfl
  | takeTurn task => rfl
  | take task answer => rfl

/-- The same save returns at both, if any does. -/
theorem saved?_furnish (d d' : Desk) (works works' : Nat → Bool) (m : Move) :
    (d.store.saved? (d'.furnish works' m)).map Save.pair
      = (d.store.saved? (d.furnish works m)).map Save.pair := by
  cases m with
  | endTurn task worked =>
      simp only [furnish, Store.saved?]
      split <;> rfl
  | enter task op => cases op <;> rfl
  | goOn task => rfl
  | takeTurn task => rfl
  | take task answer => rfl

/-- **The same chore comes to the same at both.** -/
theorem step (h : Alike d d') {place' : SettingsPlace} (sound : Sound r place d)
    (sound' : Sound r place' d') {works : Nat → Bool} (works' : Nat → Bool) {c : Chore}
    {rest : List Chore} (same : LoadsAlike place place' works d (c :: rest)) :
    (d'.step works' c).2 = (d.step works c).2 ∧
      Alike (d.step works c).1 (d'.step works' c).1 := by
  cases c with
  | load task view =>
      refine ⟨rfl, h.store, h.saves, ?_⟩
      intro fresh
      have hfresh : d.store.state.uid = none := fresh
      have hplace : d.place = place := sound.place_of_fresh hfresh
      have hplace' : d'.place = place' := sound'.place_of_fresh (by rw [h.store, hfresh])
      show Function.update d'.loaded task (d'.place.load view)
        = Function.update d.loaded task (d.place.load view)
      rw [h.loaded hfresh, hplace, hplace', same [] task view rest rfl hfresh]
  | move m =>
      have hstep : d'.store.step (d'.furnish works' m) = d.store.step (d.furnish works m) := by
        rw [h.store, h.step_furnish works works']
      have hsaved : (d'.store.saved? (d'.furnish works' m)).map Save.pair
          = (d.store.saved? (d.furnish works m)).map Save.pair := by
        rw [h.store, saved?_furnish d d' works works']
      -- a view that is not set up afterwards was not set up before
      have hfresh : (d.store.step (d.furnish works m)).1.state.uid = none →
          d.store.state.uid = none := by
        intro hafter
        cases huid : d.store.state.uid with
        | none => rfl
        | some uid =>
            rw [uid_of_step huid] at hafter
            cases hafter
      have houtputs : (d'.store.step (d'.furnish works' m)).2
          = (d.store.step (d.furnish works m)).2 := by rw [hstep]
      have hstore : (d'.store.step (d'.furnish works' m)).1
          = (d.store.step (d.furnish works m)).1 := by rw [hstep]
      refine ⟨houtputs, hstore, ?_, ?_⟩
      · show (d'.saves ++ _).map Save.pair = (d.saves ++ _).map Save.pair
        rw [List.map_append, List.map_append, h.saves, ← Option.toList_map, ← Option.toList_map,
          hsaved]
      · intro hafter
        exact h.loaded (hfresh hafter)

/-- **So do any number of them.** -/
theorem run (h : Alike d d') {place' : SettingsPlace} (sound : Sound r place d)
    (sound' : Sound r place' d') {works : Nat → Bool} (works' : Nat → Bool) {chores : List Chore}
    (same : LoadsAlike place place' works d chores) :
    d'.course works' chores = d.course works chores ∧
      Alike (d.run works chores) (d'.run works' chores) := by
  induction chores generalizing d d' with
  | nil => exact ⟨rfl, h⟩
  | cons c rest ih =>
      obtain ⟨houtputs, halike⟩ := h.step sound sound' works' same
      obtain ⟨hcourse, hlast⟩ := ih halike (sound.step works c) (sound'.step works' c) same.tail
      refine ⟨?_, hlast⟩
      rw [course, course, h.store, houtputs, halike.store, hcourse]

end Alike

end Desk

/-! ### The rule of keeping settings -/

/-- What is left in a place after some chores. -/
structure Left (place : SettingsPlace) (d : Desk) : Prop where
  /-- What the saves that worked have put there. -/
  kept : d.place = place.keep d.saves
  /-- What was kept for other views is still there. -/
  others : ∀ view, d.store.state.uid ≠ some view → d.place.text? view = place.text? view

/-- What becomes of the same chores with two places for the settings, whichever saves work. -/
structure KeepingRule (r : Registry) (place place' : SettingsPlace) (works works' : Nat → Bool)
    (chores : List Chore) : Prop where
  /-- Each chore finds the same store, gives the same to the outside, events, requests, results and
  settings to be saved, and leaves the same store. -/
  course : (Desk.start r place').course works' chores = (Desk.start r place).course works chores
  store : ((Desk.start r place').run works' chores).store
    = ((Desk.start r place).run works chores).store
  /-- The same saves have returned, but for whether they have worked. -/
  saves : ((Desk.start r place').run works' chores).saves.map Save.pair
    = ((Desk.start r place).run works chores).saves.map Save.pair
  /-- What differs is what these have left in the places. -/
  left : Left place ((Desk.start r place).run works chores)
  left' : Left place' ((Desk.start r place').run works' chores)

/-- **Whether settings are kept cannot be told from a view.** -/
theorem run_keepingRule (r : Registry) {place place' : SettingsPlace} {works : Nat → Bool}
    (works' : Nat → Bool) {chores : List Chore}
    (same : Desk.LoadsAlike place place' works (.start r place) chores) :
    KeepingRule r place place' works works' chores := by
  have hsound := Desk.sound_start r place
  have hsound' := Desk.sound_start r place'
  have hstart : Desk.Alike (.start r place) (.start r place') :=
    ⟨rfl, rfl, fun _ => rfl⟩
  obtain ⟨hcourse, halike⟩ := hstart.run hsound hsound' works' same
  have hlast := hsound.run works chores
  have hlast' := hsound'.run works' chores
  refine ⟨hcourse, halike.store, halike.saves, ⟨hlast.place, ?_⟩, ⟨hlast'.place, ?_⟩⟩
  · intro view other
    exact hlast.text?_of_ne other
  · intro view other
    exact hlast'.text?_of_ne other

/-- A field is hidden, and saving that works or fails: only the place can tell. -/
theorem keepingRule_of_one_failure :
    let place : SettingsPlace := .memory [] false false []
    let chores : List Chore := [.load 0 "view", .move (.enter 0 (.setUp "view" "q" [.name] none)),
      .move (.enter 1 (.hideField .name)), .move (.goOn 1), .move (.takeTurn 1),
      .move (.endTurn 1 true)]
    let kept := fun works : Nat → Bool =>
      ((Desk.start .ownProjects place).run works chores).place.text? "view"
    Desk.LoadsAlike place place (fun _ => true) (.start .ownProjects place) chores ∧
      kept (fun _ => true) ≠ none ∧ kept (fun _ => false) = none ∧
      KeepingRule .ownProjects place place (fun _ => true) (fun _ => false) chores :=
  ⟨fun _ _ _ _ _ _ => rfl, by decide, by decide,
    run_keepingRule _ _ fun _ _ _ _ _ _ => rfl⟩

end ProjectViews
